import EditableFields.Build
import EditableFields.Catalog
import EditableFields.Classification
import EditableFields.CommandLine.Run
import EditableFields.CommandLine.Usage
import EditableFields.Configuration
import EditableFields.Declaration.Basic
import EditableFields.Declaration.Derivation
import EditableFields.Declaration.Mention
import EditableFields.Declaration.Pragma
import EditableFields.Declaration.TypeExpr
import EditableFields.Descriptor
import EditableFields.Factory.Plan
import EditableFields.Factory.Planning
import EditableFields.Factory.Source
import EditableFields.Factory.Type
import EditableFields.Field.Basic
import EditableFields.Field.Factory
import EditableFields.Field.Observers
import EditableFields.Field.Operations
import EditableFields.Field.Recipe
import EditableFields.Field.Session
import EditableFields.Field.Shape
import EditableFields.Field.Value
import EditableFields.Folder
import EditableFields.Generation
import EditableFields.Main
import EditableFields.Markup.Attribute
import EditableFields.Markup.Event
import EditableFields.Markup.Fault
import EditableFields.Markup.Reader
import EditableFields.Name
import EditableFields.Name.Item
import EditableFields.Proofs.Catalog
import EditableFields.Proofs.Planning.Acyclic
import EditableFields.Proofs.Planning.Emission
import EditableFields.Proofs.Planning.Invariant
import EditableFields.Proofs.Planning.Plans
import EditableFields.Proofs.Planning.Traversal
import EditableFields.Proofs.Survey.Coherence
import EditableFields.Proofs.Survey.Grounded
import EditableFields.Proofs.Survey.History
import EditableFields.Proofs.Survey.Inquiry
import EditableFields.Proofs.Survey.Loops
import EditableFields.Proofs.Survey.Plain
import EditableFields.Schema
import EditableFields.Schema.Document
import EditableFields.Schema.Element
import EditableFields.Schema.Validity
import EditableFields.Shape
import EditableFields.Survey
import EditableFields.Text.Alphabetic
import EditableFields.Text.CodeRun
import EditableFields.Text.Extender
import EditableFields.Text.IdentifierContinue
import EditableFields.Text.IdentifierStart
import EditableFields.Text.Letter
import EditableFields.Text.Lowercase
import EditableFields.Text.Lowering
import EditableFields.Text.Numeric
import EditableFields.Text.Quoted
import EditableFields.Text.Unprintable
import EditableFields.Text.Uppercase
import EditableFields.Token.Lexer
import EditableFields.Token.Literal
import EditableFields.Proofs.Planning.Made
import EditableFields.Proofs.Planning.Making
import EditableFields.Proofs.Planning.Fit
import EditableFields.Proofs.Planning.Obligations
import EditableFields.Proofs.Schema.Validity
import EditableFields.Proofs.Source.Closure
import EditableFields.Proofs.Source.Inverse
import EditableFields.Proofs.Document.Node
import EditableFields.Proofs.Document.Writing
import EditableFields.Proofs.Document.RoundTrip
import EditableFields.Proofs.Field.Parts
import EditableFields.Proofs.Field.Operation
import EditableFields.Proofs.Field.Origin
import EditableFields.Proofs.Field.Reset
import EditableFields.Proofs.Field.Setting
import EditableFields.Proofs.Field.Selection
import EditableFields.Proofs.Field.Notice
import EditableFields.Proofs.Field.Sum
import EditableFields.Proofs.Field.Registry
import EditableFields.Proofs.Field.Presence
import EditableFields.Proofs.Field.Depth
import EditableFields.Proofs.Field.Structure
import EditableFields.Proofs.Field.Switching
import EditableFields.Proofs.Planning.Tolerance
import EditableFields.Proofs.Survey.WellFormed
import EditableFields.Proofs.Planning.Sites
import EditableFields.Proofs.Planning.Arity
import EditableFields.Proofs.Planning.Reordering
import EditableFields.Proofs.Source.Methods
import EditableFields.Proofs.Survey.Run
import EditableFields.Proofs.Survey.Course
import EditableFields.Proofs.Survey.Circle
import EditableFields.Proofs.Result
import EditableFields.Proofs.Document.Nesting
import EditableFields.Proofs.Document.Declared
import EditableFields.Proofs.Document.Soundness
import EditableFields.Proofs.Document.Keeping
import EditableFields.Proofs.Document.Outside
import EditableFields.Proofs.Document.Ending
import EditableFields.Proofs.Document.Spelling
import EditableFields.Proofs.Document.Leniency
import EditableFields.Proofs.Document.Renaming
import EditableFields.Proofs.Document.Escaping
import EditableFields.Proofs.Document.WrittenOut
import EditableFields.Proofs.Declaration.Lowering
import EditableFields.Proofs.Survey.Origin
import EditableFields.Proofs.Declaration.Marks
import EditableFields.Proofs.Survey.Resolved
import EditableFields.Proofs.Declaration.Described
import EditableFields.Proofs.Declaration.Valid
import EditableFields.Proofs.Planning.Spelled
import EditableFields.Proofs.Schema.WellFormed
import EditableFields.Proofs.Source.Holding
import EditableFields.Proofs.Declaration.Recursive
import EditableFields.Proofs.Inline
import EditableFields.Proofs.Survey.Worded
import EditableFields.Proofs.Source.Documentation
import EditableFields.Proofs.Name.Snake
import EditableFields.Proofs.Name.Words
import EditableFields.Proofs.Source.Functions
import EditableFields.Proofs.Document.Extent
import EditableFields.Proofs.Catalog.Index
