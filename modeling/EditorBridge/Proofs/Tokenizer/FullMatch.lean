import EditorBridge.Proofs.Regex.Anchoring
import EditorBridge.Proofs.Regex.Nesting
import EditorBridge.Proofs.Regex.Reading
/-!
Terminals matched in full.  The anchored form of a pattern is accepted and matches the texts that the pattern
can match from their start to their end (`TerminalPattern.compile_exact`).  The one exception is a pattern that
ends in a comment, which takes in the end of the anchored form.
-/

set_option autoImplicit false

namespace EditorBridge

namespace Regex

variable {source : String} {ast : Ast}

/-- A pattern ends in a comment if a closing parenthesis behind it is read too: outside of a comment it would
have to close a group. -/
def EndsInComment (source : String) : Prop := (parse (source ++ ")")).isSome = true

instance (source : String) : Decidable (EndsInComment source) := inferInstanceAs (Decidable (_ = true))

theorem parse_eq_some_iff : parse source = some ast ↔ ∃ τ,
    (Parser.branches (Parser.maxNesting + 1)).run { rest := source.toList } = some (ast, τ) ∧ τ.rest = [] ∧
      ast.depth ≤ Parser.maxNesting := by
  rw [parse, Option.bind_eq_bind, Option.bind_eq_some_iff]
  constructor
  · rintro ⟨⟨ast', τ⟩, hrun, hresult⟩
    dsimp only at hresult
    split at hresult
    · rename_i hend
      obtain rfl := Option.some.inj hresult
      rw [Bool.and_eq_true, List.isEmpty_iff, decide_eq_true_iff] at hend
      exact ⟨τ, hrun, hend⟩
    · exact absurd hresult (Option.some_ne_none _).symm
  · rintro ⟨τ, hrun, hrest, hdepth⟩
    refine ⟨(ast, τ), hrun, ?_⟩
    simp [hrest, hdepth]

/-- What is read of a pattern with a tail behind it: all but the tail, or the tail too. -/
theorem branches_run_of_parse (hparse : parse source = some ast) :
    (∀ tail, Closing tail → ∃ τ, τ.rest = tail ∧
      (Parser.branches (Parser.maxNesting + 1)).run { rest := source.toList ++ tail } = some (ast, τ)) ∨
    HoldsComment source.toList ∧ ∀ tail, Closing tail → ∃ τ, τ.rest = [] ∧
      (Parser.branches (Parser.maxNesting + 1)).run { rest := source.toList ++ tail } = some (ast, τ) := by
  obtain ⟨τ, hrun, hrest, -⟩ := parse_eq_some_iff.mp hparse
  have hcarried := Parser.steady_branches _ _ ast τ hrun
  refine hcarried.tails.imp (fun hleft tail htail => ?_) fun ⟨hcomment, htaken⟩ => ⟨hcomment, ?_⟩
  · refine ⟨τ.followed tail, ?_, hleft tail htail _ (Nat.le_refl _)⟩
    rw [Scanner.followed, hrest, List.nil_append]
  · exact fun tail htail => ⟨τ, hrest, htaken tail htail _ (Nat.le_refl _)⟩

theorem closing_parenthesis : Closing [')'] := ⟨⟨[], rfl⟩, by decide⟩

theorem closing_anchor : Closing [')', '$'] := ⟨⟨['$'], rfl⟩, by decide⟩

/-- A pattern is read to its end in the anchored form, unless it ends in a comment: then nothing is left. -/
theorem branches_run_anchored (hparse : parse source = some ast) (hdepth : ast.depth < Parser.maxNesting) :
    ∃ τ, (Parser.branches Parser.maxNesting).run { rest := source.toList ++ [')', '$'] } = some (ast, τ) ∧
      (EndsInComment source ∧ HoldsComment source.toList ∧ τ.rest = [] ∨
        ¬ EndsInComment source ∧ τ.rest = [')', '$']) := by
  have hsource : (source ++ ")").toList = source.toList ++ [')'] := String.toList_append
  rcases branches_run_of_parse hparse with hleft | ⟨hcomment, htaken⟩
  · obtain ⟨τ, hrest, hrun⟩ := hleft _ closing_anchor
    refine ⟨τ, Parser.branches_of_depth_lt _ _ _ hdepth hrun, Or.inr ⟨?_, hrest⟩⟩
    intro hends
    obtain ⟨ast', hends⟩ := Option.isSome_iff_exists.mp hends
    obtain ⟨υ, hall, hnil, -⟩ := parse_eq_some_iff.mp hends
    obtain ⟨τ, hrest, hrun⟩ := hleft _ closing_parenthesis
    rw [hsource, hrun] at hall
    obtain ⟨rfl, rfl⟩ := Prod.mk.inj (Option.some.inj hall)
    rw [hrest] at hnil
    exact List.cons_ne_nil _ _ hnil
  · obtain ⟨τ, hrest, hrun⟩ := htaken _ closing_anchor
    refine ⟨τ, Parser.branches_of_depth_lt _ _ _ hdepth hrun, Or.inl ⟨?_, hcomment, hrest⟩⟩
    obtain ⟨τ, hrest, hrun⟩ := htaken _ closing_parenthesis
    have hparsed : parse (source ++ ")") = some ast :=
      parse_eq_some_iff.mpr ⟨τ, hsource ▸ hrun, hrest, Nat.le_of_lt hdepth⟩
    exact Option.isSome_iff_exists.mpr ⟨ast, hparsed⟩

end Regex

namespace TerminalPattern

open Regex

variable {source : String} {ast : Ast} {pattern : Regex.Pattern} {flags : Flags}

/-- **A terminal pattern is accepted just if it does not end in a comment**, and then it is matched in full by
the texts that the pattern can match from their start to their end. -/
theorem compile_exact (hparse : parse source = some ast)
    (hresolve : ast.resolve.run {} = some (pattern, flags)) (hdepth : ast.depth + 2 ≤ Parser.maxNesting)
    (hsize : pattern.anchored.size ≤ Pattern.maxSize) :
    (EndsInComment source → HoldsComment source.toList ∧ compile source = .error .malformed) ∧
      (¬ EndsInComment source → ∃ terminal, compile source = .ok terminal ∧ terminal.search = pattern ∧
        ∀ text, terminal.isFullMatch text = true ↔ text.toList.length ∈ pattern.ends text.toList 0) := by
  have hsmaller : pattern.size ≤ Pattern.maxSize := by
    have hanchored : pattern.anchored.size =
      Pattern.stateSize + (pattern.size + (Pattern.stateSize + Pattern.stateSize)) := rfl
    omega
  have hsearch : Regex.compile source = .ok pattern := by
    rw [(Spells.of_parse hparse hresolve).compile_eq, if_pos hsmaller]
  obtain ⟨⟨rest, blanks, names⟩, hread, hend⟩ := branches_run_anchored hparse (by omega)
  rcases hend with ⟨hends, hcomment, hrest⟩ | ⟨hends, hrest⟩
  · obtain rfl : rest = [] := hrest
    refine ⟨fun _ => ⟨hcomment, ?_⟩, fun hnot => absurd hends hnot⟩
    have hfull : Regex.compile (anchored source) = .error .malformed := by
      rw [Regex.compile, parse_anchored_of_taken hread]
      rfl
    rw [compile, hsearch, hfull]
    rfl
  · obtain rfl : rest = [')', '$'] := hrest
    refine ⟨fun h => absurd h hends, fun _ => ⟨⟨source, pattern, pattern.anchored⟩, ?_, rfl, fun text => ?_⟩⟩
    · have hfull : Regex.compile (anchored source) = .ok pattern.anchored := by
        rw [(Spells.anchored hread hdepth hresolve).compile_eq, if_pos hsize]
      rw [compile, hsearch, hfull]
      rfl
    · exact pattern.isMatch_anchored_iff text

theorem compile_exact_alternatives :
    parse "a|b" = some (.alternation [.ofChar 'a', .ofChar 'b']) ∧ ¬ EndsInComment "a|b" ∧
      ∃ terminal, compile "a|b" = .ok terminal ∧
        terminal.search = .alternate (.one (.singleton 'a')) (.alternate (.one (.singleton 'b')) (.one [])) ∧
        ∀ text, terminal.isFullMatch text = true ↔
          text.toList.length ∈ terminal.search.ends text.toList 0 := by
  have hparse : parse "a|b" = some (.alternation [.ofChar 'a', .ofChar 'b']) := rfl
  have hresolve : (Ast.alternation [.ofChar 'a', .ofChar 'b']).resolve.run {} =
      some (.alternate (.one (.singleton 'a')) (.alternate (.one (.singleton 'b')) (.one [])), {}) := rfl
  have hends : ¬ EndsInComment "a|b" := by decide
  obtain ⟨terminal, hcompile, hsearch, hmatch⟩ :=
    (compile_exact hparse hresolve (by decide) (by decide +kernel)).2 hends
  rw [← hsearch] at hmatch
  exact ⟨hparse, hends, terminal, hcompile, hsearch, hmatch⟩

/-- A pattern that ends in a comment gives no terminal, whatever it matches. -/
theorem compile_refuses_comment :
    (∃ pattern, Regex.compile "(?x)a # c" = .ok pattern ∧
      "a".toList.length ∈ pattern.ends "a".toList 0) ∧
      compile "(?x)a # c" = .error .malformed := by
  have hspells : Spells "(?x)a # c" (.concat .empty (.concat (.one (.singleton 'a')) .empty)) := rfl
  have hsearch : Regex.compile "(?x)a # c" = _ := hspells.compile_eq.trans (if_pos (by decide +kernel))
  have hanchored : parse (anchored "(?x)a # c") = none := rfl
  have hfull : Regex.compile (anchored "(?x)a # c") = .error .malformed := by
    rw [Regex.compile, hanchored]
    rfl
  refine ⟨⟨_, hsearch, by decide⟩, ?_⟩
  rw [compile, hsearch, hfull]
  rfl

end TerminalPattern

end EditorBridge
