import SfcWeave.Script.Grammar.Basic

/-!
# What readers read

`Reads reader s start result stop` says that a reader, in the surroundings `s`, takes the script
from the cursor `start` to the cursor `stop`, whatever has been read before. There is one rule for
each way to put readers together, so that a production is followed lexeme by lexeme without looking
at its state. Repetitions are followed by `Repeats`, one turn after the other
(`Repeats.reads_whileHolds`).
-/

namespace SfcWeave.Script

variable {α β σ : Type} {s : Surroundings} {c d e : Cursor} {a : α} {b : β} {text : String}

/-- From one cursor a reader gets to another and gives a result. -/
def Reads (reader : Reader α) (s : Surroundings) (start : Cursor) (result : α) (stop : Cursor) :
    Prop :=
  ∀ p : Progress, p.cursor = start →
    ∃ last, reader s p = .ok result { p with cursor := stop, last }

/-- From a cursor a reader fails. -/
def Refuses (reader : Reader α) (s : Surroundings) (start : Cursor) : Prop :=
  ∀ p : Progress, p.cursor = start → ∃ error p', reader s p = .error error p'

/-! ### Sequences -/

theorem run_bind_of_ok {reader : Reader α} {next : α → Reader β} {p p' : Progress}
    (h : reader s p = .ok a p') : (reader >>= next) s p = next a s p' := by
  simp only [bind, ReaderT.bind, EStateM.bind, h]

theorem run_bind_of_error {reader : Reader α} {next : α → Reader β} {p p' : Progress}
    {error : SyntaxError} (h : reader s p = .error error p') :
    (reader >>= next) s p = .error error p' := by
  simp only [bind, ReaderT.bind, EStateM.bind, h]

theorem Reads.pure : Reads (Pure.pure a) s c a c := by
  intro p hp
  subst hp
  exact ⟨p.last, rfl⟩

theorem Reads.bind {reader : Reader α} {next : α → Reader β} (h : Reads reader s c a d)
    (hnext : Reads (next a) s d b e) : Reads (reader >>= next) s c b e := by
  intro p hp
  obtain ⟨last, hread⟩ := h p hp
  obtain ⟨last', hread'⟩ := hnext { p with cursor := d, last } rfl
  exact ⟨last', (run_bind_of_ok hread).trans hread'⟩

theorem Reads.refuses_bind {reader : Reader α} {next : α → Reader β} (h : Reads reader s c a d)
    (hnext : Refuses (next a) s d) : Refuses (reader >>= next) s c := by
  intro p hp
  obtain ⟨last, hread⟩ := h p hp
  obtain ⟨error, p', hread'⟩ := hnext { p with cursor := d, last } rfl
  exact ⟨error, p', (run_bind_of_ok hread).trans hread'⟩

theorem Refuses.bind {reader : Reader α} {next : α → Reader β} (h : Refuses reader s c) :
    Refuses (reader >>= next) s c := by
  intro p hp
  obtain ⟨error, p', hread⟩ := h p hp
  exact ⟨error, p', run_bind_of_error hread⟩

theorem Reads.read : Reads (MonadReader.read : Reader Surroundings) s c s c := by
  intro p hp
  subst hp
  exact ⟨p.last, rfl⟩

theorem Reads.withReader {reader : Reader α} {change : Surroundings → Surroundings}
    (h : Reads reader (change s) c a d) :
    Reads (MonadWithReaderOf.withReader change reader) s c a d := h

/-- A reader gets to one cursor only. -/
theorem Reads.unique {reader : Reader α} {other : α} (h : Reads reader s c a d)
    (hother : Reads reader s c other e) : a = other ∧ d = e := by
  obtain ⟨last, hread⟩ := h { cursor := c } rfl
  obtain ⟨last', hread'⟩ := hother { cursor := c } rfl
  rw [hread] at hread'
  cases hread'
  exact ⟨rfl, rfl⟩

/-! ### Single lexemes -/

theorem reads_cursor : Reads Reader.cursor s c c c := by
  intro p hp
  subst hp
  exact ⟨p.last, rfl⟩

theorem reads_peek : Reads Reader.peek s c c.next c := .bind reads_cursor .pure

theorem reads_advance : Reads Reader.advance s c () c.next := by
  intro p hp
  subst hp
  exact ⟨p.cursor.span.stop, rfl⟩

theorem reads_atMark : Reads (Reader.atMark text) s c (c.isMark text) c := .bind reads_cursor .pure

theorem reads_atWord : Reads (Reader.atWord text) s c (c.isWord text) c := .bind reads_cursor .pure

theorem refuses_unexpected : Refuses (Reader.unexpected : Reader α) s c := by
  refine reads_cursor.refuses_bind ?_
  intro p _
  cases c.lexeme with
  | invalid error => exact ⟨error, p, rfl⟩
  | endOfText => exact ⟨⟨.unexpectedEnd, c.span⟩, p, rfl⟩
  | _ => exact ⟨⟨.unexpectedToken, c.span⟩, p, rfl⟩

theorem reads_accept (h : c.isMark text = true) : Reads (Reader.accept text) s c true c.next := by
  refine .bind reads_atMark ?_
  rw [if_pos h]
  exact .bind reads_advance .pure

theorem reads_accept_not (h : c.isMark text = false) : Reads (Reader.accept text) s c false c := by
  refine .bind reads_atMark ?_
  rw [h, if_neg Bool.false_ne_true]
  exact .pure

theorem reads_acceptWord (h : c.isWord text = true) :
    Reads (Reader.acceptWord text) s c true c.next := by
  refine .bind reads_atWord ?_
  rw [if_pos h]
  exact .bind reads_advance .pure

theorem reads_acceptWord_not (h : c.isWord text = false) :
    Reads (Reader.acceptWord text) s c false c := by
  refine .bind reads_atWord ?_
  rw [h, if_neg Bool.false_ne_true]
  exact .pure

theorem reads_expect (h : c.isMark text = true) : Reads (Reader.expect text) s c () c.next := by
  refine .bind (reads_accept h) ?_
  exact .pure

theorem refuses_expect (h : c.isMark text = false) : Refuses (Reader.expect text) s c := by
  refine (reads_accept_not h).refuses_bind ?_
  exact refuses_unexpected

theorem reads_name (h : c.word? = some text) : Reads Reader.name s c text c.next := by
  refine .bind reads_cursor ?_
  rw [h]
  exact .bind reads_advance .pure

/-- A statement may end here without a semicolon. -/
theorem reads_acceptEnd (hends : c.endsStatement = true) (hmark : c.isMark ";" = false) :
    Reads Reader.acceptEnd s c true c := by
  refine .bind reads_cursor ?_
  rw [hmark, if_neg Bool.false_ne_true, hends]
  exact .bind .pure .pure

theorem reads_expectEnd (hends : c.endsStatement = true) (hmark : c.isMark ";" = false) :
    Reads Reader.expectEnd s c () c :=
  .bind (reads_acceptEnd hends hmark) .pure

/-! ### Trying -/

theorem reads_onSameLine_not {reader : Reader Bool} (h : Reads reader s c false c) :
    Reads (Reader.onSameLine reader) s c false c := by
  refine .bind reads_cursor ?_
  unfold Reader.onlyIf
  split
  · exact h
  · exact .pure

/-- A reader that fails is a no, and the script stays where it is. -/
theorem reads_lookAhead_not {reader : Reader Bool} (h : Refuses reader s c) :
    Reads (Reader.lookAhead reader) s c false c := by
  intro p hp
  obtain ⟨error, p', hread⟩ := h p hp
  subst hp
  have hcaught : (tryCatch reader fun _ => pure false) s p = .ok false p' := by
    show EStateM.tryCatch (reader s) (fun _ => pure false) p = _
    delta EStateM.tryCatch
    dsimp only
    rw [hread]
    rfl
  refine ⟨p.last, ?_⟩
  show ((tryCatch reader fun _ => pure false) >>= fun result => do set p; return result) s p = _
  rw [run_bind_of_ok hcaught]
  rfl

/-! ### Repetitions -/

/-- The first turn of a repetition can be its last. -/
theorem reads_repeatUntil_stop {start : σ} {step : σ → Reader (σ ⊕ α)}
    (h : Reads (step start) s c (.inr a) d) : Reads (Reader.repeatUntil start step) s c a d := by
  refine .bind .read ?_
  unfold Reader.iterate
  exact .bind h .pure

/-- A reader is repeated: each turn starts with a test that holds, and the last test does not. -/
inductive Repeats (test : Reader Bool) (body : Reader α) (s : Surroundings) :
    Cursor → List α → Cursor → Prop
  | done {c d : Cursor} : Reads test s c false d → Repeats test body s c [] d
  | turn {c d e stop : Cursor} {a : α} {as : List α} : Reads test s c true d → Reads body s d a e →
      Repeats test body s e as stop → Repeats test body s c (a :: as) stop

theorem Repeats.reads_iterate {test : Reader Bool} {body : Reader α} {as : List α} {count : Nat}
    (h : Repeats test body s c as d) (read : List α) (hcount : as.length < count) :
    Reads (Reader.iterate (fun read => do
      if ← test then return .inl ((← body) :: read) else return .inr read.reverse) count read)
      s c (read.reverse ++ as) d := by
  induction h generalizing read count with
  | done htest =>
    obtain ⟨count, rfl⟩ := Nat.exists_eq_add_one_of_ne_zero (Nat.ne_zero_of_lt hcount)
    unfold Reader.iterate
    refine .bind (.bind htest .pure) ?_
    rw [List.append_nil]
    exact .pure
  | @turn c d e stop a as htest hbody _ ih =>
    obtain ⟨count, rfl⟩ := Nat.exists_eq_add_one_of_ne_zero (Nat.ne_zero_of_lt hcount)
    unfold Reader.iterate
    refine .bind (.bind htest (.bind hbody .pure)) ?_
    have hrest := ih (a :: read) (Nat.lt_of_succ_lt_succ hcount)
    simpa using hrest

/-- A script is long enough for as many turns as it has bytes. -/
theorem Repeats.reads_whileHolds {test : Reader Bool} {body : Reader α} {as : List α}
    (h : Repeats test body s c as d) (hsize : as.length ≤ s.size) :
    Reads (Reader.whileHolds test body) s c as d :=
  .bind .read (h.reads_iterate [] (by omega))

theorem reads_whileHolds_not {test : Reader Bool} {body : Reader α} (h : Reads test s c false d) :
    Reads (Reader.whileHolds test body) s c [] d :=
  (Repeats.done h).reads_whileHolds (Nat.zero_le _)

end SfcWeave.Script
