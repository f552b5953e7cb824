import SqlMapper.Proofs.Run
import SqlMapper.Template.Scan

/-!
# Filling a template, call by call

A template is filled by asking a handler for a text for every token. The
handler has a state of its own and may fail, so what counts is not only the
text that comes out but which calls were made. Two things are said here:

* filling is asking for all contents in order and then weaving the replies
  into the literals, so that no reply is ever looked at again;
* a handler can be *watched*: it then also keeps the list of the contents
  that it was called with, and answers as before.

## Main results

* `Markers.replace_of_intact` — replacing tokens is `mapM` over the contents.
* `run_mapM_watched`, `run_mapM_watched_of_error` — the calls of a run that
  succeeds and of one that fails.
-/

namespace SqlMapper

/-- What answers the contents of tokens: a text, or a fault, and a change of
its own state. -/
abbrev TokenHandler (σ : Type) := String → Stateful σ String

/-! ## Weaving replies into literals -/

/-- Every reply followed by its literal. -/
def weave : List String → List (List Char) → String
  | reply :: replies, literal :: literals =>
      reply ++ String.ofList literal ++ weave replies literals
  | _, _ => ""

namespace Template

/-- The literals behind the tokens, in order. -/
def followers (t : Template) : List (List Char) := t.tokens.map Prod.snd

/-- The template with the replies in the places of its tokens. -/
def woven (t : Template) (replies : List String) : String :=
  String.ofList t.lead ++ weave replies t.followers

/-- The contents as texts. -/
def references (t : Template) : List String := t.contents.map String.ofList

@[simp] theorem references_prepend (text : List Char) (t : Template) :
    (t.prepend text).references = t.references := rfl

@[simp] theorem references_prependToken (content : List Char) (t : Template) :
    (t.prependToken content).references = String.ofList content :: t.references := rfl

theorem woven_literal (text : List Char) : (literal text).woven [] = String.ofList text := by
  simp [literal, woven, weave]

theorem woven_prepend (text : List Char) (t : Template) (replies : List String) :
    (t.prepend text).woven replies = String.ofList text ++ t.woven replies := by
  simp [prepend, woven, followers, String.ofList_append, String.append_assoc]

theorem woven_prependToken (content : List Char) (t : Template) (reply : String)
    (replies : List String) :
    (t.prependToken content).woven (reply :: replies) = reply ++ t.woven replies := by
  simp [prependToken, woven, followers, weave, String.append_assoc]

variable {σ : Type} (handler : TokenHandler σ)

private theorem fillTokens_eq_mapM (tokens : List (List Char × List Char)) :
    fillTokens handler tokens = do
      let replies ← (tokens.map fun token => String.ofList token.1).mapM handler
      return weave replies (tokens.map Prod.snd) := by
  induction tokens with
  | nil => simp [fillTokens, weave]
  | cons token tokens ih =>
      obtain ⟨content, literal⟩ := token
      simp [fillTokens, ih, weave]

/-- Filling asks for every content in order and weaves the replies in. -/
theorem fill_eq_mapM (t : Template) :
    t.fill handler = do
      let replies ← t.references.mapM handler
      return t.woven replies := by
  have hrefs : t.references = t.tokens.map fun token => String.ofList token.1 := by
    simp [references, contents]
  simp [fill, fillTokens_eq_mapM, woven, followers, hrefs]

end Template

/-- Replacing the tokens of a text whose scan reaches the end asks for every
content in order and weaves the replies in. -/
theorem Markers.replace_of_intact {σ : Type} {m : Markers} {template : String}
    (h : (m.scan template).intact = true) (handler : TokenHandler σ) :
    m.replace template handler = do
      let replies ← (m.scan template).references.mapM handler
      return (m.scan template).woven replies := by
  simp [replace, Template.fill_eq_mapM, h]

/-- Only a text whose scan reaches the end can be replaced. -/
theorem Markers.intact_of_replace {σ : Type} {m : Markers} {template text : String}
    {handler : TokenHandler σ} {s s' : σ}
    (h : (m.replace template handler).run s = (.ok text, s')) :
    (m.scan template).intact = true := by
  obtain ⟨filled, t, -, h⟩ := exists_of_run_bind_ok h
  split at h
  · assumption
  · cases h

/-! ## Watching a handler -/

section Watching

variable {σ : Type}

/-- The handler with a list of the contents that it was called with, the
last one included if that call failed. -/
def TokenHandler.watched (handler : TokenHandler σ) : TokenHandler (List String × σ) :=
  fun content => ExceptT.mk fun (seen, s) =>
    let (outcome, s') := (handler content).run s
    (outcome, (seen ++ [content], s'))

variable {handler : TokenHandler σ}

theorem TokenHandler.run_watched (content : String) (seen : List String) (s : σ) :
    (handler.watched content).run (seen, s) =
      (((handler content).run s).1, (seen ++ [content], ((handler content).run s).2)) := rfl

/-- A watched run that succeeds has made one call for every content, in
order. -/
theorem run_mapM_watched {contents replies seen : List String} {s s' : σ}
    (h : (contents.mapM handler).run s = (.ok replies, s')) :
    (contents.mapM handler.watched).run (seen, s) = (.ok replies, (seen ++ contents, s')) := by
  induction contents generalizing replies seen s with
  | nil =>
      cases h
      simp
  | cons content contents ih =>
      rcases hc : (handler content).run s with ⟨fault | reply, s₁⟩
      · rw [run_mapM_cons_of_error hc] at h
        cases h
      · rw [run_mapM_cons_of_ok hc] at h
        rcases hrest : (contents.mapM handler).run s₁ with ⟨fault | others, s₂⟩
        · rw [hrest] at h
          cases h
        · rw [hrest] at h
          cases h
          have hwatched : (handler.watched content).run (seen, s) =
              (.ok reply, (seen ++ [content], s₁)) := by
            rw [TokenHandler.run_watched, hc]
          rw [run_mapM_cons_of_ok hwatched, ih hrest]
          simp [Except.map]

/-- A watched run that fails has made the calls before the failed one, and
that one. -/
theorem run_mapM_watched_of_error {before after replies seen : List String} {content : String}
    {s s₁ s₂ : σ} {fault : Fault} (hbefore : (before.mapM handler).run s = (.ok replies, s₁))
    (hc : (handler content).run s₁ = (.error fault, s₂)) :
    ((before ++ content :: after).mapM handler.watched).run (seen, s) =
      (.error fault, (seen ++ before ++ [content], s₂)) := by
  have hwatched : (handler.watched content).run (seen ++ before, s₁) =
      (.error fault, (seen ++ before ++ [content], s₂)) := by
    rw [TokenHandler.run_watched, hc]
  exact run_mapM_append_of_error (run_mapM_watched hbefore) hwatched

end Watching

end SqlMapper
