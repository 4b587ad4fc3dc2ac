import SfcWeave.Script.Grammar.Basic

/-!
# Template literals
-/

namespace SfcWeave.Script.Grammar

open Reader

/-- A template literal whose substitutions are read by `inner`. -/
def template (inner : Reader Unit) : Reader Unit := do
  let open? ← cursor
  unless open?.isMark "\x60" do unexpected
  repeatUntil (open?.span.stop, open?.rest) fun (offset, text) => do
    match templatePart? offset text with
    | none => fail .unterminatedTemplate ⟨open?.span.start, (← read).size⟩
    | some (stop, .closed, rest) =>
      modify fun p => { p with cursor := Cursor.start stop false rest, last := stop }
      return .inr ()
    | some (stop, .substitution, rest) =>
      modify fun p => { p with cursor := Cursor.start stop false rest, last := stop }
      inner
      let close ← cursor
      if close.isMark "\x7d" then return .inl (close.span.stop, close.rest)
      else unexpected

end SfcWeave.Script.Grammar
