import UniformBlock.Journal
import UniformBlock.Main
import UniformBlock.Proofs.Arrangement
import UniformBlock.Proofs.Reservations
import UniformBlock.Proofs.Std140Rule
import UniformBlock.Proofs.RowPatterns
import UniformBlock.Proofs.BlindWrites
import UniformBlock.Proofs.RowStore
import UniformBlock.Proofs.SkippedSync
import UniformBlock.Proofs.WriterRows
import UniformBlock.Proofs.WordRuns
import UniformBlock.Proofs.RelatedRuns
import UniformBlock.Proofs.Passes
import UniformBlock.Proofs.Compilation
import UniformBlock.Proofs.CompiledBlock
import UniformBlock.Proofs.Confinement
import UniformBlock.Proofs.LaidOut
import UniformBlock.Proofs.SetImage
import UniformBlock.Proofs.CoveringWrites
import UniformBlock.Proofs.FailedSync
import UniformBlock.Proofs.ArrayRoom
import UniformBlock.Proofs.WgslRule
import UniformBlock.Proofs.ArrayEntries
import UniformBlock.Proofs.WriteOrder
import UniformBlock.Proofs.StoppedPass
import UniformBlock.Proofs.CheckedLengths
import UniformBlock.Proofs.CompiledLayouts
import UniformBlock.Proofs.RepeatedNames
import UniformBlock.Proofs.SetHistory
import UniformBlock.Proofs.BaseOffsets
import UniformBlock.Proofs.RepeatedPasses
import UniformBlock.Proofs.SharedBuffer
import UniformBlock.Proofs.PlacedRows
import UniformBlock.Proofs.EqualWriters
import UniformBlock.Proofs.EvenRows
import UniformBlock.Proofs.UncheckedLayouts
import UniformBlock.Proofs.FirstFlaw
import UniformBlock.Proofs.TypeSpellings
import UniformBlock.Proofs.ChartedBlock
