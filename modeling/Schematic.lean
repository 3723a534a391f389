import Schematic.Class.Model
import Schematic.Doc.Docstring
import Schematic.Doc.Record
import Schematic.Export.Document
import Schematic.Json.Reader
import Schematic.Json.Writer
import Schematic.Model.Scripted
import Schematic.Proofs.AbsentMembers
import Schematic.Proofs.ArrayElements
import Schematic.Proofs.ClassDocstrings
import Schematic.Proofs.CompilationFailures
import Schematic.Proofs.Composition
import Schematic.Proofs.ConvertedNumerals
import Schematic.Proofs.CyclicTypes
import Schematic.Proofs.Deletion
import Schematic.Proofs.DocstringLayout
import Schematic.Proofs.Enumerations
import Schematic.Proofs.ExportEffects
import Schematic.Proofs.LiteralUnions
import Schematic.Proofs.Metadata
import Schematic.Proofs.NestedLiterals
import Schematic.Proofs.PrintedDocstrings
import Schematic.Proofs.RequiredNames
import Schematic.Proofs.Respelling
import Schematic.Proofs.StructFlavours
import Schematic.Proofs.TagTexts
import Schematic.Proofs.TagValues
import Schematic.Proofs.ValueBounds
import Schematic.Proofs.Wrappers
import Schematic.Proofs.WrittenFiles
import Schematic.Tag.Value
