import EditorBridge.Notification.Diagnostic
import EditorBridge.Tree.Linker
/-!
Change notifications: the address of a document, its tree as text, and the diagnostics found in it.
Every notification is linked from scratch.
-/

set_option autoImplicit false

namespace EditorBridge

/-- A document that has changed. -/
structure DocumentChange where
  uri : Url
  /-- The serialized tree. -/
  content : String
  diagnostics : List DocumentDiagnostic

/-- A document with its tree linked. -/
structure LinkedDocument where
  uri : Url
  tree : LinkedTree
  diagnostics : List DocumentDiagnostic

namespace DocumentChange

/-- A change from JSON.  Diagnostics may be left out. -/
def decoder : Json.Decoder DocumentChange :=
  .record [Url, String, List DocumentDiagnostic] "struct DocumentChange"
    (⟨"uri", Url.decoder, .required⟩, ⟨"content", .string, .required⟩,
      ⟨"diagnostics", .list DocumentDiagnostic.decoder, .defaulted []⟩, ())
    fun (uri, content, diagnostics, _) => ⟨uri, content, diagnostics⟩

/-- The change a text describes. -/
def parse (text : String) : Except LinkError DocumentChange :=
  match decoder.run text with
  | .ok change => .ok change
  | .error fault => .error (.malformed fault)

/-- The document after the change. -/
def link (change : DocumentChange) (conventions : Conventions) : Except LinkError LinkedDocument := do
  let tree ← LinkedTree.parse conventions change.content
  return ⟨change.uri, tree, change.diagnostics⟩

end DocumentChange

namespace LinkedDocument

/-- The document that a notification describes. -/
def parse (conventions : Conventions) (text : String) : Except LinkError LinkedDocument := do
  (← DocumentChange.parse text).link conventions

def errors (document : LinkedDocument) : List DocumentDiagnostic :=
  document.diagnostics.filter DocumentDiagnostic.isError

/-- What there is to report about linking the document. -/
def linkLog (document : LinkedDocument) : List LogRecord :=
  let message := "Linked " ++ document.uri.text ++ " (" ++ toString document.tree.nodes.size ++
    " nodes, " ++ toString document.tree.references.size ++ " references)"
  document.tree.linkLog ++ [⟨.debug, "weft_ast::document", message⟩]

end LinkedDocument

end EditorBridge
