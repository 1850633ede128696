import BpfExporter.Main
import BpfExporter.Service
import BpfExporter.StatsSwitch
import BpfExporter.Proofs.Chunking
import BpfExporter.Proofs.Grammar
import BpfExporter.Proofs.LabelReading
import BpfExporter.Proofs.SampleReading
import BpfExporter.Proofs.LineReading
import BpfExporter.Proofs.Acceptance
import BpfExporter.Proofs.Placement
import BpfExporter.Proofs.RoundTrip
import BpfExporter.Proofs.Assoc
import BpfExporter.Proofs.Names
import BpfExporter.Proofs.Operations
import BpfExporter.Proofs.Updates
import BpfExporter.Proofs.Rendering
import BpfExporter.Proofs.Gathering
import BpfExporter.Proofs.RegistryRecords
import BpfExporter.Proofs.LabelOrder
import BpfExporter.Proofs.FamilyText
import BpfExporter.Proofs.ValueRange
import BpfExporter.Proofs.RecordFilter
import BpfExporter.Proofs.Cycles
import BpfExporter.Proofs.SpelledLines
import BpfExporter.Proofs.Store
import BpfExporter.Proofs.SubjectPasses
import BpfExporter.Proofs.SubjectCollections
import BpfExporter.Proofs.ProgramFold
import BpfExporter.Proofs.WholeText
import BpfExporter.Proofs.SectionOrder
import BpfExporter.Proofs.DeltaRun
import BpfExporter.Proofs.LongNumerals
import BpfExporter.Proofs.Export
import BpfExporter.Proofs.Visibility
import BpfExporter.Proofs.Refusals
import BpfExporter.Proofs.ExposedNames
import BpfExporter.Proofs.LibraryNames
import BpfExporter.Proofs.ReadableNames
import BpfExporter.Proofs.Entries
import BpfExporter.Proofs.Series
import BpfExporter.Proofs.PassEntries
import BpfExporter.Proofs.ListingOrder
import BpfExporter.Proofs.ReaderStates
import BpfExporter.Proofs.SelfCounts
import BpfExporter.Proofs.RefusedRegistrations
import BpfExporter.Proofs.KindLists
import BpfExporter.Proofs.RefusedLines
import BpfExporter.Proofs.FaultLines
import BpfExporter.Proofs.LastReadings
import BpfExporter.Proofs.LabelInverse
import BpfExporter.Proofs.FoldedRecords
import BpfExporter.Proofs.ForeignSections
import BpfExporter.Proofs.LibraryLists
import BpfExporter.Proofs.ConfiguredKinds
import BpfExporter.Proofs.OwnNames
import BpfExporter.Proofs.ListedObjects
import BpfExporter.Proofs.TopRows
import BpfExporter.Proofs.Escaping
