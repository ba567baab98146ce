import ClassDiagram.Assignment
import ClassDiagram.Associations
import ClassDiagram.Classes
import ClassDiagram.Draft
import ClassDiagram.Entity
import ClassDiagram.Enumerations
import ClassDiagram.Fault
import ClassDiagram.Index
import ClassDiagram.Ingestion
import ClassDiagram.Journal
import ClassDiagram.Loading
import ClassDiagram.Lookup
import ClassDiagram.Opening
import ClassDiagram.Path
import ClassDiagram.Progress
import ClassDiagram.Registry
import ClassDiagram.Remark
import ClassDiagram.Reporting
import ClassDiagram.Settings
import ClassDiagram.Store
import ClassDiagram.Table
import ClassDiagram.Text.Bands
import ClassDiagram.Text.Blank
import ClassDiagram.Text.CaseTable
import ClassDiagram.Text.Casing
import ClassDiagram.Text.Chart
import ClassDiagram.Text.Numeral
import ClassDiagram.Text.PrintTable
import ClassDiagram.Text.Quoted
import ClassDiagram.Typing
import ClassDiagram.Xml.Charset
import ClassDiagram.Xml.Codepage
import ClassDiagram.Xml.Codepage.Table
import ClassDiagram.Xml.Document
import ClassDiagram.Xml.Encoding
import ClassDiagram.Xml.Letter
import ClassDiagram.Xml.Markup
import ClassDiagram.Xml.Name
import ClassDiagram.Xml.Node
import ClassDiagram.Xml.Prolog
import ClassDiagram.Xml.Prolog.AttributeList
import ClassDiagram.Xml.Prolog.Content
import ClassDiagram.Xml.Prolog.Entity
import ClassDiagram.Xml.Prolog.Rules
import ClassDiagram.Xml.Prolog.Token
import ClassDiagram.Xml.Reference
import ClassDiagram.Xml.Refusal
import ClassDiagram.Xml.Scope
import ClassDiagram.Xml.Source
import ClassDiagram.Xml.Tree
import ClassDiagram.Proofs.Lookups
import ClassDiagram.Proofs.Steps
import ClassDiagram.Proofs.Stores
import ClassDiagram.Proofs.Tables
import ClassDiagram.Proofs.Contracts
import ClassDiagram.Proofs.Calls
import ClassDiagram.Proofs.Building
import ClassDiagram.Proofs.FailWhole
import ClassDiagram.Proofs.Course
import ClassDiagram.Proofs.Settled
import ClassDiagram.Proofs.Casing
import ClassDiagram.Proofs.Integrity
import ClassDiagram.Proofs.Reading
import ClassDiagram.Proofs.Ownership
import ClassDiagram.Proofs.Agreement
import ClassDiagram.Proofs.Interleaving
import ClassDiagram.Proofs.Replacing
import ClassDiagram.Proofs.Transfer
import ClassDiagram.Proofs.Moving
import ClassDiagram.Proofs.FieldTypes
import ClassDiagram.Proofs.FieldOrder
import ClassDiagram.Proofs.ClassOrder
import ClassDiagram.Proofs.FailFast
import ClassDiagram.Proofs.LifeCycle
import ClassDiagram.Proofs.Renaming
import ClassDiagram.Proofs.Recasting
import ClassDiagram.Proofs.Mirroring
import ClassDiagram.Proofs.Namespaces
import ClassDiagram.Proofs.Identifiers
import ClassDiagram.Proofs.Registries
import ClassDiagram.Proofs.Linking
import ClassDiagram.Proofs.Redirecting
import ClassDiagram.Proofs.Designation
import ClassDiagram.Proofs.Converses
import ClassDiagram.Proofs.Rollback
import ClassDiagram.Proofs.UserClass
import ClassDiagram.Proofs.TypeOrder
import ClassDiagram.Proofs.Lettering
import ClassDiagram.Proofs.ListedNames
import ClassDiagram.Proofs.Positions
import ClassDiagram.Proofs.Readers
import ClassDiagram.Proofs.Documents
import ClassDiagram.Proofs.Blanks
import ClassDiagram.Proofs.Wording
import ClassDiagram.Proofs.Bounds
import ClassDiagram.Proofs.MemberLists
import ClassDiagram.Proofs.FieldNames
import ClassDiagram.Proofs.Telling
import ClassDiagram.Proofs.Journals
