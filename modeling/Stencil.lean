import Stencil.Draft
import Stencil.Json.Reader
import Stencil.Proofs.RegistryIsolation
import Stencil.Proofs.VariableCoverage
import Stencil.Template.Composition
import Stencil.Workspace.Session
import Stencil.Proofs.HelperHistory
import Stencil.Proofs.CatalogOutcomes
import Stencil.Proofs.HelperRecords
import Stencil.Proofs.DocumentMaking
import Stencil.Proofs.HelperBinding
import Stencil.Proofs.HelperPrecedence
import Stencil.Proofs.GuardedRendering
import Stencil.Proofs.Leaves
import Stencil.Proofs.CallTrees
import Stencil.Proofs.CallComposition
import Stencil.Proofs.Conditions
import Stencil.Proofs.SourceComposition
import Stencil.Proofs.ShapeInference
import Stencil.Proofs.CallCoverage
import Stencil.Proofs.ScanAgreement
import Stencil.Proofs.ShapeKinds
import Stencil.Proofs.WrittenForms
import Stencil.Proofs.TagForms
import Stencil.Proofs.SpokenTags
import Stencil.Proofs.PlacedTags
import Stencil.Proofs.ReadingOrder
import Stencil.Proofs.VariableOrder
import Stencil.Proofs.LeafWords
import Stencil.Proofs.FormWords
import Stencil.Proofs.TagScan
import Stencil.Proofs.Mentions
import Stencil.Proofs.MentionCoverage
import Stencil.Proofs.ShapeMerging
import Stencil.Proofs.ShapeOrigins
import Stencil.Proofs.PaddedTexts
import Stencil.Proofs.Progressions
import Stencil.Proofs.StableSorting
import Stencil.Proofs.ShiftedDates
import Stencil.Proofs.DateArithmetic
import Stencil.Proofs.SplitTexts
import Stencil.Proofs.Slices
import Stencil.Proofs.ValueTexts
import Stencil.Proofs.DigitGroups
import Stencil.Proofs.IdentifierCases
import Stencil.Proofs.Slugs
import Stencil.Proofs.CacheAccounting
import Stencil.Proofs.DraftLayout
import Stencil.Proofs.DiagnosedLines
import Stencil.Proofs.LineWindows
import Stencil.Proofs.VariableNames
import Stencil.Proofs.PathSplitting
