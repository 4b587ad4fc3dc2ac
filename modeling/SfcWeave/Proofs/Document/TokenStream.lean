import SfcWeave.Proofs.Document.Tiling

/-!
# Tokens one by one

A `TokenStream` gives the tokens of a source from an offset on, one with each call of `next`. It
reads the text behind that offset, counts from there, and adds the offset to the spans, which keep
their ends in 32 bits. After the token for the end it gives nothing more.

In a source whose offsets can be kept the calls answer the tokens that tile it
(`TokenStream.tiles_source`).
-/

namespace SfcWeave

open Text (byteLength RestAt)
open Document.Addressed (span32 span32_eq restAt_of_next?)

/-- What is still to be read of a source. -/
structure TokenStream where
  /-- The offset from which the source is read. -/
  base : Nat
  /-- The size of the whole source. -/
  size : Nat
  /-- How far reading has come behind `base`. -/
  position : Nat
  rest : List Char
  /-- The token for the end has been given. -/
  finished : Bool
deriving DecidableEq, Repr

namespace TokenStream

/-- Starts at an offset of a source; there is no text from within a character on. -/
def ofSource? (source : String) (base : Nat) : Option TokenStream :=
  (Text.splitAt? base source.toList).map fun (_, rest) =>
    { base, size := source.utf8ByteSize, position := 0, rest, finished := false }

/-- The span in the whole source. -/
def absolute (stream : TokenStream) (span : Span) : Span :=
  span32 (stream.base + span.start) (stream.base + span.stop)

/-- The next token, if there is one, and the stream behind it. -/
def next (stream : TokenStream) : Option Token × TokenStream :=
  if stream.finished then (none, stream)
  else match Token.next? stream.position stream.rest with
    | some (token, rest) =>
      (some { token with span := stream.absolute token.span },
        { stream with position := token.span.stop, rest })
    | none =>
      (some ⟨.endOfFile, [], span32 stream.size stream.size⟩, { stream with finished := true })

/-- What the calls of `next` answer, numbered from zero. -/
def answer (stream : TokenStream) : Nat → Option Token
  | 0 => stream.next.1
  | n + 1 => stream.next.2.answer n

/-- The stream has not come to the end, and what is left of the source is its rest. -/
structure Reads (source : String) (stream : TokenStream) : Prop where
  unfinished : stream.finished = false
  size_eq : stream.size = source.utf8ByteSize
  restAt : RestAt source.toList (stream.base + stream.position) stream.rest

variable {source : String} {base offset : Nat} {cs rest : List Char} {token : Token}
  {stream : TokenStream}

/-- The tokens of a text that starts further on have their spans moved. -/
theorem next?_add (base offset : Nat) (cs : List Char) :
    Token.next? (base + offset) cs = (Token.next? offset cs).map fun (token, rest) =>
      ({ token with span := token.span.shift base }, rest) := by
  unfold Token.next?
  split
  · rfl
  · simp [Span.shift, Nat.add_assoc]

/-! ### Steps -/

theorem answer_of_finished (h : stream.finished = true) (n : Nat) : stream.answer n = none := by
  have hnext : stream.next = (none, stream) := if_pos h
  induction n with
  | zero => rw [answer, hnext]
  | succ n ih => rw [answer, hnext, ih]

theorem next_of_none (h : stream.Reads source) (hsize : source.utf8ByteSize < UInt32.size)
    (hnext : Token.next? (stream.base + stream.position) stream.rest = none) :
    stream.next = (some (Token.ofEnd source), { stream with finished := true }) := by
  rw [next?_add, Option.map_eq_none_iff] at hnext
  rw [← Text.byteLength_toList] at hsize
  rw [next, h.unfinished, hnext, h.size_eq, ← Text.byteLength_toList,
    span32_eq hsize (Nat.le_refl _) (Nat.le_refl _), Text.byteLength_toList]
  rfl

/-- The token is the one that stands in the source, and the stream goes on behind it. -/
theorem next_of_some (h : stream.Reads source) (hsize : source.utf8ByteSize < UInt32.size)
    (hnext : Token.next? (stream.base + stream.position) stream.rest = some (token, rest)) :
    ∃ stream' : TokenStream, stream.next = (some token, stream') ∧ stream'.Reads source ∧
      stream'.base + stream'.position = token.span.stop ∧ stream'.rest = rest := by
  obtain ⟨-, hstop, hspan, -⟩ := restAt_of_next? h.restAt hnext
  rw [next?_add] at hnext
  obtain ⟨⟨found, after⟩, hfound, heq⟩ := Option.map_eq_some_iff.mp hnext
  obtain ⟨rfl, rfl⟩ := Prod.mk.inj heq
  have hend := hstop.size
  rw [← Text.byteLength_toList] at hsize
  have habsolute : stream.absolute found.span = found.span.shift stream.base :=
    span32_eq hsize (by simp at hspan; omega) (by simp at hend; omega)
  refine ⟨{ stream with position := found.span.stop, rest := after }, ?_,
    ⟨h.unfinished, h.size_eq, hstop⟩, rfl, rfl⟩
  rw [next, hfound]
  dsimp only
  rw [if_neg (Bool.eq_false_iff.mp h.unfinished), habsolute]

/-! ### Runs -/

/-- The calls answer the tokens of the rest, and then nothing. -/
theorem answer_eq (h : stream.Reads source) (hsize : source.utf8ByteSize < UInt32.size) (n : Nat) :
    stream.answer n = (Token.all (stream.base + stream.position) stream.rest)[n]? := by
  induction n generalizing stream with
  | zero =>
    cases hnext : Token.next? (stream.base + stream.position) stream.rest with
    | none =>
      rw [answer, next_of_none h hsize hnext, Token.all_of_isGap h.restAt
        (Token.next?_eq_none_iff.mp hnext)]
      rfl
    | some found =>
      obtain ⟨token, rest⟩ := found
      obtain ⟨stream', hstep, -⟩ := next_of_some h hsize hnext
      rw [answer, hstep, Token.all_of_next?_some hnext]
      rfl
  | succ n ih =>
    cases hnext : Token.next? (stream.base + stream.position) stream.rest with
    | none =>
      rw [answer, next_of_none h hsize hnext, Token.all_of_isGap h.restAt
        (Token.next?_eq_none_iff.mp hnext), answer_of_finished rfl]
      rfl
    | some found =>
      obtain ⟨token, rest⟩ := found
      obtain ⟨stream', hstep, hreads, hposition, hrest⟩ := next_of_some h hsize hnext
      rw [answer, hstep, Token.all_of_next?_some hnext, List.getElem?_cons_succ, ← hposition,
        ← hrest]
      exact ih hreads

theorem exists_ofSource? (hbase : RestAt source.toList base rest) :
    ∃ stream, ofSource? source base = some stream ∧ stream.Reads source ∧
      stream.base + stream.position = base ∧ stream.rest = rest := by
  obtain ⟨before, hsource, hoffset⟩ := hbase
  have hcut := Text.splitAt?_eq_some_iff.mpr ⟨hsource, hoffset⟩
  refine ⟨⟨base, source.utf8ByteSize, 0, rest, false⟩, ?_, ⟨rfl, rfl, before, hsource, hoffset⟩,
    rfl, rfl⟩
  rw [ofSource?, hcut]
  rfl

/-- From a character boundary of a source whose offsets fit into 32 bits the stream gives finitely
many tokens and then nothing. They tile the source, and nothing else does; of marks that start alike
the longer one is read; and two names do not touch. -/
theorem tiles_source (hsize : source.utf8ByteSize < UInt32.size)
    (hbase : RestAt source.toList base rest) :
    ∃ stream tokens, ofSource? source base = some stream ∧ (∀ n, stream.answer n = tokens[n]?) ∧
      tokens = Token.all base rest ∧ Token.Tiles source base tokens ∧
      (∀ others, Token.Tiles source base others → others = tokens) ∧
      (∀ token ∈ tokens, token.kind ≠ .endOfFile →
        ∀ cs, RestAt source.toList token.span.start cs → token.ReadsMarks cs) ∧
      tokens.Pairwise fun a b =>
        a.kind = .name → b.kind = .name → a.span.stop < b.span.start := by
  obtain ⟨stream, hstream, hreads, hposition, hrest⟩ := exists_ofSource? hbase
  have htiles := (Token.all_eq_iff hbase).mp rfl
  refine ⟨stream, _, hstream, ?_, rfl, htiles, ?_, ?_, htiles.names_apart⟩
  · intro n
    rw [answer_eq hreads hsize, hposition, hrest]
  · intro others hothers
    exact ((Token.all_eq_iff hbase).mpr hothers).symm
  · intro token hmem hkind cs hcs
    exact htiles.readsMarks hmem hkind hcs

/-- Marks that start alike, a quote in quotes and one without a partner, next to characters of two
and three bytes. -/
def markedSource : String := "é<!-x é\t/></ <!--a='\"'\"→ "

def markedTokens : List Token :=
  [⟨.tagOpen, ['<'], ⟨2, 3⟩⟩, ⟨.name, ['!', '-', 'x'], ⟨3, 6⟩⟩, ⟨.name, ['é'], ⟨7, 9⟩⟩,
    ⟨.emptyEnd, ['/', '>'], ⟨10, 12⟩⟩, ⟨.closingOpen, ['<', '/'], ⟨12, 14⟩⟩,
    ⟨.commentOpen, ['<', '!', '-', '-'], ⟨15, 19⟩⟩, ⟨.name, ['a'], ⟨19, 20⟩⟩,
    ⟨.equals, ['='], ⟨20, 21⟩⟩, ⟨.singleQuoted, ['\'', '"', '\''], ⟨21, 24⟩⟩,
    ⟨.invalid, ['"', '→', ' '], ⟨24, 29⟩⟩, ⟨.endOfFile, [], ⟨29, 29⟩⟩]

theorem tiles_source_marked :
    markedSource.utf8ByteSize < UInt32.size ∧
    RestAt markedSource.toList 2 (markedSource.toList.drop 1) ∧
    ∃ stream, ofSource? markedSource 2 = some stream ∧
      (∀ n, stream.answer n = markedTokens[n]?) ∧ Token.Tiles markedSource 2 markedTokens := by
  have hsize : markedSource.utf8ByteSize < UInt32.size := by decide +kernel
  have hbase : RestAt markedSource.toList 2 (markedSource.toList.drop 1) :=
    ⟨['é'], by decide +kernel, by decide +kernel⟩
  obtain ⟨stream, tokens, hstream, hanswer, htokens, htiles, -⟩ := tiles_source hsize hbase
  obtain rfl : tokens = markedTokens := htokens.trans (by decide +kernel)
  exact ⟨hsize, hbase, stream, hstream, hanswer, htiles⟩

end TokenStream

end SfcWeave
