import SchemaDepot.Bundle
import SchemaDepot.Catalogue
import SchemaDepot.CommandLine
import SchemaDepot.Event
import SchemaDepot.Host
import SchemaDepot.Listing
import SchemaDepot.Main
import SchemaDepot.Manifest
import SchemaDepot.Manifest.Load
import SchemaDepot.Number.Decimal
import SchemaDepot.Number.Shortest
import SchemaDepot.Path
import SchemaDepot.Plan
import SchemaDepot.Pool
import SchemaDepot.Proofs.Bundle
import SchemaDepot.Proofs.Bundle.Installed
import SchemaDepot.Proofs.Bundle.Rendering
import SchemaDepot.Proofs.Bundle.Templates
import SchemaDepot.Proofs.Catalogue
import SchemaDepot.Proofs.CommandLine
import SchemaDepot.Proofs.CommandLine.Agreement
import SchemaDepot.Proofs.CommandLine.Assignment
import SchemaDepot.Proofs.CommandLine.Options
import SchemaDepot.Proofs.Error
import SchemaDepot.Proofs.Event
import SchemaDepot.Proofs.Host
import SchemaDepot.Proofs.Host.Schema
import SchemaDepot.Proofs.Identifier
import SchemaDepot.Proofs.Listing
import SchemaDepot.Proofs.Log
import SchemaDepot.Proofs.Manifest
import SchemaDepot.Proofs.Manifest.Containment
import SchemaDepot.Proofs.Manifest.Entries
import SchemaDepot.Proofs.Manifest.Failure
import SchemaDepot.Proofs.Manifest.Keys
import SchemaDepot.Proofs.Manifest.Outline
import SchemaDepot.Proofs.Manifest.Written
import SchemaDepot.Proofs.Outcome
import SchemaDepot.Proofs.Outcome.Ends
import SchemaDepot.Proofs.Outcome.Records
import SchemaDepot.Proofs.Path
import SchemaDepot.Proofs.Path.Text
import SchemaDepot.Proofs.Plan
import SchemaDepot.Proofs.Plan.Everything
import SchemaDepot.Proofs.Plan.Trace
import SchemaDepot.Proofs.Provision
import SchemaDepot.Proofs.Provision.Distinct
import SchemaDepot.Proofs.Provision.Refusal
import SchemaDepot.Proofs.Provision.Substance
import SchemaDepot.Proofs.Provision.Unknown
import SchemaDepot.Proofs.Registry
import SchemaDepot.Proofs.Registry.Confinement
import SchemaDepot.Proofs.Registry.Failure
import SchemaDepot.Proofs.Scheme
import SchemaDepot.Proofs.Scheme.Number
import SchemaDepot.Proofs.Session
import SchemaDepot.Proofs.Template.Alternatives
import SchemaDepot.Proofs.Template.Ambiguity
import SchemaDepot.Proofs.Template.Crossing
import SchemaDepot.Proofs.Template.Cut
import SchemaDepot.Proofs.Template.Injectivity
import SchemaDepot.Proofs.Template.Refusal
import SchemaDepot.Proofs.Template.Rendering
import SchemaDepot.Proofs.Template.Replacement
import SchemaDepot.Proofs.TemplateSet
import SchemaDepot.Proofs.Text.Lines
import SchemaDepot.Proofs.Text.Replace
import SchemaDepot.Proofs.Text.Standing
import SchemaDepot.Proofs.Text.Trim
import SchemaDepot.Proofs.TextSet
import SchemaDepot.Proofs.Tree
import SchemaDepot.Proofs.Validation
import SchemaDepot.Proofs.Value
import SchemaDepot.Proofs.Value.Literal
import SchemaDepot.Proofs.Value.Same
import SchemaDepot.Proofs.Yaml.Document
import SchemaDepot.Proofs.Yaml.Hexadecimal
import SchemaDepot.Proofs.Yaml.Place
import SchemaDepot.Proofs.Yaml.Token
import SchemaDepot.Proofs.Yaml.Uniqueness
import SchemaDepot.Proofs.Yaml.Visiting
import SchemaDepot.Registry
import SchemaDepot.Report
import SchemaDepot.Request
import SchemaDepot.Run
import SchemaDepot.Scheme
import SchemaDepot.Session
import SchemaDepot.Settings
import SchemaDepot.Template
import SchemaDepot.TemplateSet
import SchemaDepot.Text.Blank
import SchemaDepot.Text.CodePoint
import SchemaDepot.Text.Lines
import SchemaDepot.Text.Lowercase
import SchemaDepot.Text.Numeral
import SchemaDepot.Text.Occurs
import SchemaDepot.Text.Order
import SchemaDepot.Text.Quoted
import SchemaDepot.TextSet
import SchemaDepot.Tree
import SchemaDepot.Validation
import SchemaDepot.Value
import SchemaDepot.Yaml.Cursor
import SchemaDepot.Yaml.Document
import SchemaDepot.Yaml.Node
import SchemaDepot.Yaml.Scalar
import SchemaDepot.Yaml.Tag
import SchemaDepot.Yaml.Token
import SchemaDepot.Yaml.Token.Lexer
import SchemaDepot.Yaml.Token.Property
import SchemaDepot.Yaml.Token.Scalar
