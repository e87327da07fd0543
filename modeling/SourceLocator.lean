import SourceLocator.Main
import SourceLocator.Proofs.ScannedFiles
import SourceLocator.Proofs.NameLanguage
import SourceLocator.Proofs.DeclarationGrammar
import SourceLocator.Proofs.DeclaringFiles
import SourceLocator.Proofs.Views
import SourceLocator.Proofs.ListedRows
import SourceLocator.Proofs.WrittenTrees
import SourceLocator.Proofs.EarlierScans
import SourceLocator.Proofs.SameDirectory
import SourceLocator.Proofs.MissingDirectories
import SourceLocator.Proofs.BrokenLinks
import SourceLocator.Proofs.NameCase
import SourceLocator.Proofs.DecodingFaults
import SourceLocator.Proofs.NameEnds
import SourceLocator.Proofs.ResourceNames
import SourceLocator.Proofs.ExactDeclarations
import SourceLocator.Proofs.ShownRecords
import SourceLocator.Proofs.AcceptedFields
import SourceLocator.Proofs.LargeCounts
import SourceLocator.Proofs.ReadingRecords
import SourceLocator.Proofs.PathSpellings
