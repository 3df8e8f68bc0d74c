import QueryPad.Main
import QueryPad.Proofs.Directive.Failure
import QueryPad.Proofs.Directive.RoundTrip
import QueryPad.Proofs.Editor.Cursor
import QueryPad.Proofs.Editor.Names
import QueryPad.Proofs.Editor.Reachable
import QueryPad.Proofs.Editor.Reaction
import QueryPad.Proofs.Editor.Splice
import QueryPad.Proofs.Editor.Suggestion
import QueryPad.Proofs.Editor.Typed
import QueryPad.Proofs.Grammar.Fold
import QueryPad.Proofs.Lexeme.Blank
import QueryPad.Proofs.Lexeme.Cut
import QueryPad.Proofs.Lexeme.Ending
import QueryPad.Proofs.Lexeme.Lines
import QueryPad.Proofs.Lexeme.Settled
import QueryPad.Proofs.Lexeme.Shape
import QueryPad.Proofs.Lexeme.Tiling
import QueryPad.Proofs.Name.Unclosed
import QueryPad.Proofs.Program.Requests
import QueryPad.Proofs.Session.Dispatch
import QueryPad.Proofs.Session.Highlight
import QueryPad.Proofs.Session.Known
import QueryPad.Proofs.Session.Log
import QueryPad.Proofs.Suggestion
import QueryPad.Proofs.Workbook.History
import QueryPad.Proofs.Workbook.Names
