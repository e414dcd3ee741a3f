import ScriptLayout.Format
import ScriptLayout.Main
import ScriptLayout.Settings
import ScriptLayout.Proofs.Format.Program
import ScriptLayout.Proofs.Format.Respacing
import ScriptLayout.Proofs.Format.Skeleton
import ScriptLayout.Proofs.Format.Progress
import ScriptLayout.Proofs.Format.Indentation
import ScriptLayout.Proofs.Format.Line
import ScriptLayout.Proofs.Format.Lookahead
import ScriptLayout.Proofs.Lexer.Continuation
import ScriptLayout.Proofs.Lexer.Cover
import ScriptLayout.Proofs.Lexer.Location
import ScriptLayout.Proofs.Lexer.Pushback
import ScriptLayout.Proofs.Lexer.Spacing
import ScriptLayout.Proofs.Lexer.Comment
import ScriptLayout.Proofs.Format.Run
import ScriptLayout.Proofs.Loop.Grammar
import ScriptLayout.Proofs.Loop.Token
import ScriptLayout.Proofs.Loop.Statement
import ScriptLayout.Proofs.Format.Loop
import ScriptLayout.Proofs.Format.Brace
import ScriptLayout.Proofs.Files.Rewriting
import ScriptLayout.Proofs.Command.Handling
import ScriptLayout.Proofs.Command.Run
import ScriptLayout.Proofs.Command.Modes
import ScriptLayout.Proofs.Branch.Grammar
import ScriptLayout.Proofs.Branch.Statement
import ScriptLayout.Proofs.Format.Branch
import ScriptLayout.Proofs.Lexeme.Closing
import ScriptLayout.Proofs.Lexeme.Longest
import ScriptLayout.Proofs.Lexer.Extent
import ScriptLayout.Proofs.Text.Tabs
import ScriptLayout.Proofs.Cursor.Operations
