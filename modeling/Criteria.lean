import Criteria.Calendar.Stamp
import Criteria.Config.Basic
import Criteria.Config.Checked
import Criteria.Config.Environment
import Criteria.Config.Folder
import Criteria.Config.Layer
import Criteria.Config.Placeholder
import Criteria.Config.Properties
import Criteria.Config.Source
import Criteria.Config.Tree
import Criteria.Decimal.Binary64
import Criteria.Decimal.Number
import Criteria.Decimal.Shortest
import Criteria.Error
import Criteria.Eval.Basic
import Criteria.Eval.Compare
import Criteria.Eval.Compile
import Criteria.Eval.Properties
import Criteria.Eval.Run
import Criteria.Eval.Script
import Criteria.Eval.Standard
import Criteria.Eval.Template
import Criteria.Expr.Basic
import Criteria.Expr.Equality
import Criteria.Expr.Outline
import Criteria.Expr.Printer
import Criteria.Expr.Substitute
import Criteria.Expr.Walk
import Criteria.Fault
import Criteria.Like.Token
import Criteria.Logging.Loggers
import Criteria.Logging.Record
import Criteria.Logging.Setup
import Criteria.Mongo.Filter
import Criteria.Mongo.FromLambda
import Criteria.Proofs.Config.Alias
import Criteria.Proofs.Config.Binding
import Criteria.Proofs.Config.Expansion
import Criteria.Proofs.Config.Layers
import Criteria.Proofs.Config.Search
import Criteria.Proofs.Config.SingleFile
import Criteria.Proofs.Config.Whole
import Criteria.Proofs.Eval.Application
import Criteria.Proofs.Eval.Congruence
import Criteria.Proofs.Eval.Lenient
import Criteria.Proofs.Eval.Lookup
import Criteria.Proofs.Eval.Natural
import Criteria.Proofs.Eval.Quiet
import Criteria.Proofs.Eval.Related
import Criteria.Proofs.Eval.Shifted
import Criteria.Proofs.Eval.Similar
import Criteria.Proofs.Eval.Simulation
import Criteria.Proofs.Expr.Foreign
import Criteria.Proofs.Like.Decoding
import Criteria.Proofs.Like.Matching
import Criteria.Proofs.Like.Search
import Criteria.Proofs.Logging.Reconfiguration
import Criteria.Proofs.Mongo.Equality
import Criteria.Proofs.Mongo.Fragment
import Criteria.Proofs.Mongo.Meaning
import Criteria.Proofs.Mongo.Pattern
import Criteria.Proofs.Scope.AlphaEq
import Criteria.Proofs.Scope.Grammar
import Criteria.Proofs.Scope.Nameless
import Criteria.Proofs.Scope.Position
import Criteria.Proofs.Scope.Rebind
import Criteria.Proofs.Scope.Rename
import Criteria.Proofs.Scope.Substitution
import Criteria.Proofs.Scope.Walk
import Criteria.Proofs.Spec.Bracketing
import Criteria.Proofs.Spec.Composition
import Criteria.Proofs.Spec.Example
import Criteria.Proofs.Spec.Isolation
import Criteria.Proofs.Spec.Once
import Criteria.Proofs.Spec.Path
import Criteria.Proofs.Spec.Place
import Criteria.Proofs.Spec.Reference
import Criteria.Proofs.Sql.Agreement
import Criteria.Proofs.Sql.Comparison
import Criteria.Proofs.Sql.Complement
import Criteria.Proofs.Sql.Denotation
import Criteria.Proofs.Sql.Parameters
import Criteria.Proofs.Sql.Pattern
import Criteria.Proofs.Sql.Printing
import Criteria.Proofs.Sql.Query
import Criteria.Proofs.Sql.Reading
import Criteria.Proofs.Sql.Rejection
import Criteria.Proofs.Text.Spelling
import Criteria.Proofs.Toml.Plain
import Criteria.Proofs.Yaml.Whole
import Criteria.Spec.Basic
import Criteria.Spec.Example
import Criteria.Spec.Field
import Criteria.Spec.Object
import Criteria.Spec.Satisfy
import Criteria.Sql.Clause
import Criteria.Sql.FromLambda
import Criteria.Sql.Printer
import Criteria.Sql.Schema
import Criteria.Text.Base64
import Criteria.Text.Blank
import Criteria.Text.Case
import Criteria.Text.CaseTable
import Criteria.Text.CasedTable
import Criteria.Text.Dotted
import Criteria.Text.Half
import Criteria.Text.Numeral
import Criteria.Text.PrintableTable
import Criteria.Text.Quoted
import Criteria.Toml.Document
import Criteria.Toml.Moment
import Criteria.Toml.Number
import Criteria.Toml.Text
import Criteria.Value.Access
import Criteria.Value.Basic
import Criteria.Value.Equality
import Criteria.Value.Literal
import Criteria.Value.Order
import Criteria.Value.Trait
import Criteria.Yaml.Cursor
import Criteria.Yaml.Document
import Criteria.Yaml.Node
import Criteria.Yaml.Number
import Criteria.Yaml.Scalar
import Criteria.Yaml.Tag
import Criteria.Yaml.Timestamp
import Criteria.Yaml.Token
