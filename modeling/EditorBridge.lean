import EditorBridge.Main
import EditorBridge.Proofs.Json.Keys
import EditorBridge.Proofs.Tree.Ownership
import EditorBridge.Proofs.Tree.Building
import EditorBridge.Proofs.Tree.Walk
import EditorBridge.Proofs.Tree.Linking
import EditorBridge.Proofs.Tree.Containers
import EditorBridge.Proofs.Tree.Access
import EditorBridge.Proofs.Tree.Relinking
import EditorBridge.Proofs.Tree.Spelling
import EditorBridge.Proofs.Tree.Locations
import EditorBridge.Proofs.Json.SameData
import EditorBridge.Proofs.Tree.Conserving
import EditorBridge.Proofs.Grammar.Reachability
import EditorBridge.Proofs.Grammar.Collation
import EditorBridge.Proofs.Regex.Matching
import EditorBridge.Proofs.Regex.Literals
import EditorBridge.Proofs.Regex.Anchoring
import EditorBridge.Proofs.Regex.Alternatives
import EditorBridge.Proofs.Tokenizer.BlockPattern
import EditorBridge.Proofs.Text.Occurrence
import EditorBridge.Proofs.Tokenizer.Delimiters
import EditorBridge.Proofs.Tokenizer.Editor
import EditorBridge.Proofs.Tokenizer.CommentState
import EditorBridge.Proofs.Tokenizer.Assembly
import EditorBridge.Proofs.Tokenizer.BlockComment
import EditorBridge.Proofs.Tokenizer.Classification
import EditorBridge.Proofs.Tokenizer.Symbols
import EditorBridge.Proofs.Tokenizer.Closed
import EditorBridge.Proofs.Tree.ContainerFields
import EditorBridge.Proofs.Tree.ContainmentTree
import EditorBridge.Proofs.Tree.DotText
import EditorBridge.Proofs.Grammar.Names
import EditorBridge.Proofs.Tokenizer.Reordering
import EditorBridge.Proofs.Tree.Counting
import EditorBridge.Proofs.Tree.PreOrder
import EditorBridge.Proofs.Tree.Alike
import EditorBridge.Proofs.Tree.KeyOrder
import EditorBridge.Proofs.Json.Records
import EditorBridge.Proofs.Grammar.Serialization
import EditorBridge.Proofs.Settings
import EditorBridge.Proofs.Tree.Census
import EditorBridge.Proofs.Tree.DocumentOrder
import EditorBridge.Proofs.Tokenizer.FullMatch
import EditorBridge.Proofs.Tokenizer.Framing
import EditorBridge.Proofs.Grammar.Resolution
import EditorBridge.Proofs.Grammar.KeywordLists
import EditorBridge.Proofs.Tokenizer.Placement
import EditorBridge.Proofs.Grammar.CollationOrder
import EditorBridge.Proofs.Grammar.LetterCase
import EditorBridge.Proofs.Tree.PathComposition
import EditorBridge.Proofs.Tokenizer.FirstLeaf
import EditorBridge.Proofs.Tokenizer.CharacterClass
