import SfcWeave.Proofs.Result
import SfcWeave.Proofs.Text.Span
import SfcWeave.Script.Snapshot

/-!
# Edits of a script

A snapshot is known from its text (`ofText_eq_ok_iff`), so that an edit is known from the text it
makes: `Edited text result` says that `result` is the snapshot of `text`, or that `text` cannot be
read. Insertions at a place where the text can be split make such a result, and a sequence of them
does too (`Edited.bind`); no edit of this kind fails because of its span.
-/

namespace SfcWeave.Script

variable {parse : Parser} {script other : Snapshot parse} {text more : String} {error : SyntaxError}

namespace Snapshot

theorem ofText_eq_ok_iff : ofText parse text = .ok script ↔ script.text = text := by
  obtain ⟨text', module, hparsed⟩ := script
  unfold ofText
  constructor
  · intro h
    split at h
    · exact (congrArg Snapshot.text (Except.ok.inj h)).symm
    · cases h
  · rintro rfl
    split
    · next other hother =>
      obtain rfl : other = module := Except.ok.inj (hother.symm.trans hparsed)
      rfl
    · next hother =>
      rw [hparsed] at hother
      cases hother

theorem ofText_eq_error_iff : ofText parse text = .error error ↔ parse text = .error error := by
  unfold ofText
  split
  · next hparsed => simp [hparsed]
  · next hparsed => simp [hparsed]

/-- A text is read in one way only. -/
theorem eq_of_text_eq (h : script.text = other.text) : script = other := by
  have hother := ofText_eq_ok_iff.mpr h
  rw [ofText_eq_ok_iff.mpr rfl] at hother
  exact (Except.ok.inj hother).symm

theorem importsFrom_iff {source : String} :
    script.importsFrom source ↔ ∃ item ∈ script.module.items, item.role = .importFrom source := by
  rw [importsFrom, List.any_eq_true]
  apply exists_congr
  intro item
  cases item.role <;> simp

end Snapshot

/-- The result of an edit whose new text is `text`. -/
inductive Edited (text : String) : Except EditError (Snapshot parse) → Prop
  | done {next : Snapshot parse} : next.text = text → Edited text (.ok next)
  | refused {cause : SyntaxError} : Edited text (.error (.syntaxError cause))

namespace Edited

theorem text_eq (h : Edited text (.ok script)) : script.text = text := by
  cases h with
  | done htext => exact htext

theorem ofText (parse : Parser) (text : String) :
    Edited text ((Snapshot.ofText parse text).mapError .syntaxError) := by
  cases h : Snapshot.ofText parse text with
  | ok script => exact .done (Snapshot.ofText_eq_ok_iff.mp h)
  | error error => exact .refused

theorem splice {before after : String} (h : script.text = before ++ after)
    (replacement : String) :
    Edited (before ++ replacement ++ after)
      (script.splice (Span.empty before.utf8ByteSize) replacement) := by
  unfold Snapshot.splice
  rw [h, Span.splice?_empty]
  exact ofText parse _

theorem append (script : Snapshot parse) (text : String) :
    Edited (script.text ++ text) (script.append text) := by
  have hend : script.text = script.text ++ "" := by rw [String.append_empty]
  have h := splice hend text
  rw [String.append_empty] at h
  exact h

/-- One edit after another. -/
theorem bind {first : Except EditError (Snapshot parse)}
    {rest : Snapshot parse → Except EditError (Snapshot parse)} (h : Edited text first)
    (hrest : ∀ script, script.text = text → Edited more (rest script)) :
    Edited more (first >>= rest) := by
  cases h with
  | done htext => exact hrest _ htext
  | refused => exact .refused

end Edited

end SfcWeave.Script
