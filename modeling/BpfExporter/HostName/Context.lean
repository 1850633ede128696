import BpfExporter.Text.Ranges

/-! Signs and digits of the international names of hosts that are allowed beside certain characters only. -/
namespace BpfExporter.HostName

def greekRanges : List (Nat × Nat) := [
  (0x370,0x373), (0x375,0x377), (0x37a,0x37d), (0x37f,0x37f), (0x384,0x384), (0x386,0x386),
  (0x388,0x38a), (0x38c,0x38c), (0x38e,0x3a1), (0x3a3,0x3e1), (0x3f0,0x3ff), (0x1d26,0x1d2a),
  (0x1d5d,0x1d61), (0x1d66,0x1d6a), (0x1dbf,0x1dbf), (0x1f00,0x1f15), (0x1f18,0x1f1d),
  (0x1f20,0x1f45), (0x1f48,0x1f4d), (0x1f50,0x1f57), (0x1f59,0x1f59), (0x1f5b,0x1f5b),
  (0x1f5d,0x1f5d), (0x1f5f,0x1f7d), (0x1f80,0x1fb4), (0x1fb6,0x1fc4), (0x1fc6,0x1fd3),
  (0x1fd6,0x1fdb), (0x1fdd,0x1fef), (0x1ff2,0x1ff4), (0x1ff6,0x1ffe), (0x2126,0x2126),
  (0xab65,0xab65), (0x10140,0x1018e), (0x101a0,0x101a0), (0x1d200,0x1d245)]

def hebrewRanges : List (Nat × Nat) := [
  (0x591,0x5c7), (0x5d0,0x5ea), (0x5ef,0x5f4), (0xfb1d,0xfb36), (0xfb38,0xfb3c), (0xfb3e,0xfb3e),
  (0xfb40,0xfb41), (0xfb43,0xfb44), (0xfb46,0xfb4f)]

def kanaRanges : List (Nat × Nat) := [
  (0x2e80,0x2e99), (0x2e9b,0x2ef3), (0x2f00,0x2fd5), (0x3005,0x3005), (0x3007,0x3007),
  (0x3021,0x3029), (0x3038,0x303b), (0x3041,0x3096), (0x309d,0x309f), (0x30a1,0x30fa),
  (0x30fd,0x30ff), (0x31f0,0x31ff), (0x32d0,0x32fe), (0x3300,0x3357), (0x3400,0x4dbf),
  (0x4e00,0x9fff), (0xf900,0xfa6d), (0xfa70,0xfad9), (0xff66,0xff6f), (0xff71,0xff9d),
  (0x16fe2,0x16fe3), (0x16ff0,0x16ff6), (0x1aff0,0x1aff3), (0x1aff5,0x1affb), (0x1affd,0x1affe),
  (0x1b000,0x1b122), (0x1b132,0x1b132), (0x1b150,0x1b152), (0x1b155,0x1b155), (0x1b164,0x1b167),
  (0x1f200,0x1f200), (0x20000,0x2a6df), (0x2a700,0x2b81d), (0x2b820,0x2cead), (0x2ceb0,0x2ebe0),
  (0x2ebf0,0x2ee5d), (0x2f800,0x2fa1d), (0x30000,0x3134a), (0x31350,0x33479)]

def isArabicDigit (c : Char) : Bool := Text.inRanges [(0x660,0x669)] c

def isPersianDigit (c : Char) : Bool := Text.inRanges [(0x6f0,0x6f9)] c

/-- Whether a character of a label is allowed between its neighbours, where this depends on them or on the
rest of the label. -/
def contextRule? (label : List Char) (before : Option Char) (c : Char) (after : Option Char) :
    Option Bool :=
  if c = '\u00b7' then some (before == some 'l' && after == some 'l')
  else if c = '\u0375' then some (after.any (Text.inRanges greekRanges))
  else if c = '\u05f3' || c = '\u05f4' then some (before.any (Text.inRanges hebrewRanges))
  else if c = '\u30fb' then some (label.any (Text.inRanges kanaRanges))
  else if isArabicDigit c then some (!label.any isPersianDigit)
  else if isPersianDigit c then some (!label.any isArabicDigit)
  else none

end BpfExporter.HostName
