import VinylSyntax.Folder
import VinylSyntax.Json.Decode
import VinylSyntax.Main
import VinylSyntax.Proofs.Ahead
import VinylSyntax.Proofs.Grammar
import VinylSyntax.Proofs.Rule
import VinylSyntax.Proofs.Follows
import VinylSyntax.Proofs.Phrases
import VinylSyntax.Proofs.Nesting
import VinylSyntax.Proofs.Descent
import VinylSyntax.Proofs.Definitions
import VinylSyntax.Proofs.Acceptance
import VinylSyntax.Proofs.Coverage
import VinylSyntax.Proofs.Faults
import VinylSyntax.Proofs.Borders
import VinylSyntax.Proofs.Standalone
import VinylSyntax.Proofs.Printing
import VinylSyntax.Proofs.Alike
import VinylSyntax.Proofs.RoundTrip
import VinylSyntax.Proofs.Spacing
import VinylSyntax.Proofs.Simulation
import VinylSyntax.Proofs.Views
import VinylSyntax.Proofs.Hiding
import VinylSyntax.Proofs.Stepping
import VinylSyntax.Proofs.Requests
import VinylSyntax.Proofs.Displacement
import VinylSyntax.Proofs.Joining
import VinylSyntax.Proofs.Leaves
import VinylSyntax.Proofs.Composition
import VinylSyntax.Proofs.Checked.Rendering
import VinylSyntax.Proofs.Checked.Lexing
import VinylSyntax.Proofs.Checked.Parsing
import VinylSyntax.Proofs.Checked.Refinement
import VinylSyntax.Proofs.Checked.Safety
import VinylSyntax.Proofs.Checked.Context
import VinylSyntax.Proofs.Abutting
import VinylSyntax.Proofs.Singles
import VinylSyntax.Proofs.Numerals.Integer
import VinylSyntax.Proofs.Numerals.Float
import VinylSyntax.Proofs.Numerals.Decoding
import VinylSyntax.Proofs.Numerals.Reach
import VinylSyntax.Proofs.Numerals.Canonical
import VinylSyntax.Proofs.Lexemes
import VinylSyntax.Proofs.Comments
import VinylSyntax.Proofs.WellFormed
import VinylSyntax.Proofs.Diagnoses
import VinylSyntax.Proofs.Independence
import VinylSyntax.Proofs.Locality
import VinylSyntax.Proofs.Extension
import VinylSyntax.Proofs.Reading.Script
import VinylSyntax.Proofs.Reading.Rounds
import VinylSyntax.Proofs.Reading.Performing
import VinylSyntax.Proofs.Reading.Progress
import VinylSyntax.Proofs.Reading.Resuming
import VinylSyntax.Proofs.Lines
import VinylSyntax.Proofs.Underlines
import VinylSyntax.Proofs.Counting
import VinylSyntax.Proofs.Keeping
import VinylSyntax.Proofs.Journal.Delivery
import VinylSyntax.Proofs.Journal.Reports
import VinylSyntax.Proofs.Journal.Parsing
import VinylSyntax.Proofs.Derived
import VinylSyntax.Proofs.Serialization
import VinylSyntax.Proofs.Operations
import VinylSyntax.Proofs.Fallbacks
import VinylSyntax.Proofs.Modes
