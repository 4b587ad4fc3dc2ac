import SfcWeave.Proofs.Json.Reading
import SfcWeave.Proofs.Node.Dialogue
import SfcWeave.Proofs.Text.Utf8

/-!
# Requests in the stream of bytes

What a worker writes is seen by recording what its process is given (`Child.recorded`), which
changes nothing else (`run_performAll_recorded`). The printed requests have no line feeds, so that
the bytes fall into one line for each call, and each line is decoded to the object that it was made
from (`ofText_print`), whatever the sources are.
-/

namespace SfcWeave

open Json Json.Reader

/-! ### The line of a request -/

/-- What the object of a request says. -/
structure RequestObject where
  id : Nat
  kind : String
  source : String
deriving DecidableEq, Repr

namespace RequestObject

/-- An object with these three members, each of them once, and no other. -/
def recordType : RecordType RequestObject where
  name := "Request"
  members := [
    { name := "id", required := true
      read := fun object => return { object with id := ← decimal } },
    { name := "kind", required := true
      read := fun object => return { object with kind := ← string } },
    { name := "source", required := true
      read := fun object => return { object with source := ← string } }]
  empty := ⟨0, "", ""⟩
  closed := true

/-- Decodes a text that is an object, not a list. -/
def ofText (text : String) : Except Json.Error RequestObject :=
  Json.read (do if (← valueStart) = '\x7b' then recordType.read else refuse "an object") text

end RequestObject

namespace ToolchainCall

/-- What is asked for by a call. -/
def object (id : Nat) : ToolchainCall → RequestObject
  | compile template => ⟨id, "compile", template⟩
  | transpile code => ⟨id, "transpile", code⟩

end ToolchainCall

namespace Request

variable {α : Type} {type : RecordType α} {idMember kindMember sourceMember : Member α}
  {first second last : α} {request : Request}

theorem toList_print (request : Request) :
    request.print.toList = '\x7b' :: ((printString "id").toList ++ ':' ::
      (Nat.toDigits 10 request.id ++ ',' :: ((printString "kind").toList ++ ':' ::
        ((printString request.kind.name).toList ++ ',' :: ((printString "source").toList ++ ':' ::
          ((printString request.source).toList ++ ['\x7d'])))))) := by
  have hid : "\x7b\"id\":".toList = '\x7b' :: ((printString "id").toList ++ [':']) := by decide
  have hkind : ",\"kind\":".toList = ',' :: ((printString "kind").toList ++ [':']) := by decide
  have hsource : ",\"source\":".toList = ',' :: ((printString "source").toList ++ [':']) := by
    decide
  simp only [print, String.toList_append, hid, hkind, hsource, toList_toString,
    List.append_assoc, List.cons_append, List.nil_append]
  rfl

/-- The line of a request is read member by member. -/
theorem reads_print (hmembers : type.members = [idMember, kindMember, sourceMember])
    (hnames : idMember.name = "id" ∧ kindMember.name = "kind" ∧ sourceMember.name = "source")
    (hid : ∀ rest, Reads (idMember.read type.empty) (Nat.toDigits 10 request.id ++ ',' :: rest)
      first (',' :: rest))
    (hkind : ∀ rest, Reads (kindMember.read first)
      ((printString request.kind.name).toList ++ rest) second rest)
    (hsource : ∀ rest, Reads (sourceMember.read second)
      ((printString request.source).toList ++ rest) last rest) :
    Reads type.read request.print.toList last [] := by
  obtain ⟨hidName, hkindName, hsourceName⟩ := hnames
  rw [toList_print, ← hidName, ← hkindName, ← hsourceName]
  apply RecordType.reads_read
  generalize hlength : List.length _ + 1 = count
  obtain ⟨fuel, rfl⟩ : ∃ fuel, count = fuel + 1 + 1 + 1 + 1 := by
    refine ⟨count - 4, ?_⟩
    rw [← hlength]
    simp [printString]
    omega
  have hmissing : type.missing? [sourceMember.name, kindMember.name, idMember.name] = none := by
    simp [RecordType.missing?, hmembers]
  have hfind {member : Member α} (hmem : member ∈ type.members) :
      type.members.find? (·.name = member.name) = some member := by
    rw [hmembers] at hmem ⊢
    simp only [List.mem_cons, List.not_mem_nil, or_false] at hmem
    rcases hmem with rfl | rfl | rfl <;> simp [hidName, hkindName, hsourceName]
  -- from the last member to the first one
  have hend : Reads (type.readMembers (fuel + 1) false _ last) ['\x7d'] (.ok last) ['\x7d'] :=
    RecordType.reads_readMembers_end hmissing
  have hthird := RecordType.reads_readMembers_cons (reads_hasMember_next (head?_printString _ _))
    (hfind (by simp [hmembers])) (by simp [hidName, hkindName, hsourceName]) (hsource _) hend
  have hsecond := RecordType.reads_readMembers_cons (reads_hasMember_next (head?_printString _ _))
    (hfind (by simp [hmembers])) (by simp [hidName, hkindName]) (hkind _) hthird
  exact RecordType.reads_readMembers_cons (reads_hasMember_first (head?_printString _ _))
    (hfind (by simp [hmembers])) List.not_mem_nil (hid _) hsecond

theorem reads_kind (kind : RequestKind) (rest : List Char) :
    Reads RequestKind.read ((printString kind.name).toList ++ rest) kind rest := by
  refine .bind (reads_string kind.name) ?_
  cases kind with
  | compile => exact .pure
  | transpile => exact .pure

/-- A request with a number below `2 ^ 64` is read back from its line. -/
theorem ofLine_print (h : request.id < 0x10000000000000000) :
    ofLine request.print = .ok request := by
  have hcomma : EndsNumber ',' := ⟨rfl, by decide⟩
  apply read_eq_ok
  apply reads_print rfl ⟨rfl, rfl, rfl⟩
  · exact fun _ => .bind (reads_natural h hcomma) .pure
  · exact fun rest => .bind (reads_kind request.kind rest) .pure
  · exact fun _ => .bind (reads_string request.source) .pure

/-- The line of a request is an object that says what the request says. -/
theorem ofText_print (request : Request) :
    RequestObject.ofText request.print =
      .ok ⟨request.id, request.kind.name, request.source⟩ := by
  have hread : Reads RequestObject.recordType.read request.print.toList
      ⟨request.id, request.kind.name, request.source⟩ [] := by
    apply reads_print rfl ⟨rfl, rfl, rfl⟩
    · exact fun _ => .bind (reads_decimal request.id rfl) .pure
    · exact fun _ => .bind (reads_string request.kind.name) .pure
    · exact fun _ => .bind (reads_string request.source) .pure
  apply read_eq_ok
  rw [toList_print] at hread ⊢
  refine .bind (reads_valueStart rfl) ?_
  rw [if_pos rfl]
  exact hread

theorem lineFeed_not_mem_print (request : Request) : '\n' ∉ request.print.toList := by
  have hstring (s : String) : '\n' ∉ (printString s).toList := by
    intro hmem
    exact not_lt_of_mem_printString hmem (by decide)
  have hdigits : '\n' ∉ Nat.toDigits 10 request.id := by
    intro hmem
    cases isDigit_of_mem_toDigits hmem
  simp [toList_print, hstring, hdigits]

end Request

/-! ### What has been written -/

/-- A line that has been given to a process. -/
structure Write where
  line : String
  received : Bool
deriving DecidableEq, Repr

/-- The bytes of the lines that a process has received, each with the line feed behind it. -/
def bytesWritten (writes : List Write) : List UInt8 :=
  (writes.filter (·.received)).flatMap fun write => Text.bytes (write.line ++ "\n")

variable {σ : Type} {process : Child σ}

namespace Child

/-- The process with a record of all lines that it is given. -/
def recorded (process : Child σ) : Child (σ × List Write) where
  receive line state :=
    let (received, next) := process.receive line state.1
    (received, (next, state.2 ++ [⟨line, received⟩]))
  read state :=
    let (output, next) := process.read state.1
    (output, (next, state.2))

theorem receive_recorded {line : String} {state next : σ} {received : Bool}
    (h : process.receive line state = (received, next)) (writes : List Write) :
    process.recorded.receive line (state, writes) =
      (received, (next, writes ++ [⟨line, received⟩])) := by
  simp only [recorded, h]

theorem read_recorded {state next : σ} {output : Output}
    (h : process.read state = (output, next)) (writes : List Write) :
    process.recorded.read (state, writes) = (output, (next, writes)) := by
  simp only [recorded, h]

end Child

namespace Worker

/-- The worker with a record of what has been written. -/
def recording (worker : Worker σ) (writes : List Write) : Worker (σ × List Write) :=
  ⟨(worker.process, writes), worker.nextId, worker.diagnosed⟩

theorem run_awaitReady_recorded (worker : Worker σ) (writes : List Write) :
    (awaitReady process.recorded).run.run (worker.recording writes) =
      let after := (awaitReady process).run.run worker
      (after.1, after.2.recording writes) := by
  rcases h : process.read worker.process with ⟨output, next⟩
  have hrecorded := Child.read_recorded h writes
  simp only [awaitReady, ExceptT.run_run_bind, run_readLine, recording, h, hrecorded]
  cases output with
  | line text =>
    simp only [run_ofExcept]
    rcases Ready.ofLine (dropReturn text) with error | ⟨_ | _⟩ <;> rfl
  | garbled => rfl
  | ended code diagnostics => rfl

/-- A worker writes nothing while it is started. -/
theorem start_recorded (runner : Runner) (tree : FileTree) (initial : σ) :
    runner.start tree process.recorded (initial, []) =
      (runner.start tree process initial).map (·.recording []) := by
  have hready : (awaitReady process.recorded).run.run ⟨(initial, []), 1, false⟩ = _ :=
    run_awaitReady_recorded ⟨initial, 1, false⟩ []
  unfold Runner.start
  split
  · rfl
  · have hrun {ρ : Type} (child : Child ρ) (worker : Worker ρ) :
        (awaitReady child).run worker = (awaitReady child).run.run worker := rfl
    simp only [hrun, hready]
    rcases (awaitReady process).run.run ⟨initial, 1, false⟩ with ⟨_ | _, worker⟩ <;> rfl

/-- A call writes the line of its request. -/
theorem run_perform_recorded (process : Child σ) (call : ToolchainCall) (worker : Worker σ)
    (writes : List Write) :
    ∃ write : Write, write.line = (call.request worker.nextId).print ∧
      (perform process.recorded call).run.run (worker.recording writes) =
        (((perform process call).run.run worker).1,
          ((perform process call).run.run worker).2.recording (writes ++ [write])) := by
  rcases h : process.receive (call.request worker.nextId).print worker.process
    with ⟨received, given⟩
  have hrecorded := Child.receive_recorded h writes
  refine ⟨⟨_, received⟩, rfl, ?_⟩
  simp only [run_perform, recording, h, hrecorded]
  cases received with
  | false => rfl
  | true =>
    rcases hread : process.read given with ⟨output, next⟩
    have hreadRecorded := Child.read_recorded hread
    simp only [hread, hreadRecorded]
    cases output <;> rfl

theorem nextId_perform (call : ToolchainCall) (worker : Worker σ) :
    ((perform process call).run.run worker).2.nextId = worker.nextId + 1 := by
  obtain ⟨exchange, next, -, -, -, hrun, hnext, -⟩ := exists_exchange process call worker
  rw [hrun, hnext]

/-- The lines of the requests for calls, numbered from `id` on. -/
def requestLines (id : Nat) (calls : List ToolchainCall) : List String :=
  (calls.zipIdx id).map fun (call, id) => (call.request id).print

/-- Calls write the lines of their requests, one after another, and are recorded without being
changed. -/
theorem run_performAll_recorded (calls : List ToolchainCall) (worker : Worker σ)
    (writes : List Write) :
    ∃ added : List Write, added.map (·.line) = requestLines worker.nextId calls ∧
      (performAll process.recorded calls).run (worker.recording writes) =
        (((performAll process calls).run worker).1,
          ((performAll process calls).run worker).2.recording (writes ++ added)) := by
  induction calls generalizing worker writes with
  | nil => exact ⟨[], rfl, by rw [List.append_nil]; rfl⟩
  | cons call calls ih =>
    obtain ⟨write, hline, hfirst⟩ := run_perform_recorded process call worker writes
    obtain ⟨added, hlines, hrest⟩ :=
      ih ((perform process call).run.run worker).2 (writes ++ [write])
    refine ⟨write :: added, ?_, ?_⟩
    · rw [List.map_cons, hline, hlines, nextId_perform]
      rfl
    · simp only [performAll_cons, hfirst, hrest, List.append_assoc, List.singleton_append]

/-! ### The bytes of all requests -/

theorem splitOn_flatMap_lineFeed {lines : List (List UInt8)}
    (h : ∀ line ∈ lines, Text.lineFeed ∉ line) :
    (lines.flatMap (· ++ [Text.lineFeed])).splitOn Text.lineFeed = lines ++ [[]] := by
  induction lines with
  | nil => rfl
  | cons line lines ih =>
    obtain ⟨hline, hrest⟩ := List.forall_mem_cons.mp h
    rw [List.flatMap_cons, List.append_assoc, List.singleton_append,
      List.splitOn_append_cons_self_of_not_mem hline, ih hrest, List.cons_append]

theorem bytesWritten_of_received {writes : List Write} (h : ∀ write ∈ writes, write.received) :
    bytesWritten writes =
      ((writes.map (·.line)).map Text.bytes).flatMap (· ++ [Text.lineFeed]) := by
  have hbytes (line : String) : Text.bytes (line ++ "\n") = Text.bytes line ++ [Text.lineFeed] := by
    rw [Text.bytes_eq_encode, String.toList_append, Text.encode_append, ← Text.bytes_eq_encode]
    rfl
  rw [bytesWritten, List.filter_eq_self.mpr h, List.map_map, List.flatMap_map]
  simp only [hbytes, Function.comp_apply]

theorem lineFeed_not_mem_requestLines {id : Nat} {calls : List ToolchainCall} {line : String}
    (h : line ∈ requestLines id calls) : Text.lineFeed ∉ Text.bytes line := by
  obtain ⟨⟨call, number⟩, -, rfl⟩ := List.mem_map.mp h
  rw [Text.bytes_eq_encode, Text.lineFeed_mem_encode]
  exact Request.lineFeed_not_mem_print _

/-- The bytes that a worker has written fall into one line for each call, and each line is decoded
to an object with the number of the call, its kind and its source. -/
theorem performAll_framed {runner : Runner} {tree : FileTree} {initial : σ}
    {worker : Worker (σ × List Write)} (calls : List ToolchainCall)
    (hstart : runner.start tree process.recorded (initial, []) = .ok worker)
    (hreceived : ∀ write ∈ ((performAll process.recorded calls).run worker).2.process.2,
      write.received) :
    (∃ plain, runner.start tree process initial = .ok plain ∧
      ((performAll process.recorded calls).run worker).1 =
        ((performAll process calls).run plain).1) ∧
    ∃ lines : List (List UInt8),
      (bytesWritten ((performAll process.recorded calls).run worker).2.process.2).splitOn
        Text.lineFeed = lines ++ [[]] ∧
      lines.length = calls.length ∧
      ∀ i call line, calls[i]? = some call → lines[i]? = some line →
        ∃ text, String.fromUTF8? line.toByteArray = some text ∧
          RequestObject.ofText text = .ok (call.object (i + 1)) ∧
          (i + 1 < 0x10000000000000000 → Request.ofLine text = .ok (call.request (i + 1))) := by
  rw [start_recorded] at hstart
  obtain ⟨plain, hplain, rfl⟩ := Except.map_eq_ok_iff.mp hstart
  obtain ⟨added, hlines, hrun⟩ := run_performAll_recorded calls plain []
  rw [nextId_of_start hplain] at hlines
  rw [hrun] at hreceived ⊢
  have hbytes : bytesWritten added =
      ((requestLines 1 calls).map Text.bytes).flatMap (· ++ [Text.lineFeed]) := by
    rw [← hlines]
    exact bytesWritten_of_received hreceived
  refine ⟨⟨plain, hplain, rfl⟩, (requestLines 1 calls).map Text.bytes, ?_, ?_, ?_⟩
  · show (bytesWritten added).splitOn _ = _
    rw [hbytes]
    apply splitOn_flatMap_lineFeed
    intro line hmem
    obtain ⟨text, htext, rfl⟩ := List.mem_map.mp hmem
    exact lineFeed_not_mem_requestLines htext
  · simp [requestLines]
  · intro i call line hcall hline
    have hprint : (requestLines 1 calls)[i]? = some (call.request (i + 1)).print := by
      simp [requestLines, hcall, Nat.add_comm]
    rw [List.getElem?_map, hprint] at hline
    obtain rfl := Option.some.inj hline
    refine ⟨_, Text.fromUTF8?_bytes _, ?_, ?_⟩
    · rw [Request.ofText_print]
      cases call <;> rfl
    · intro hlt
      apply Request.ofLine_print
      cases call <;> exact hlt

/-- Calls with line breaks, quotes, backslashes, controls and other characters beyond ASCII. -/
def callsOfAnyText : List ToolchainCall :=
  [.compile "<p>\n\t\"é\"\r\n</p>", .transpile "'\\' + '😀\x00\x1f\x7f'"]

theorem performAll_framed_callsOfAnyText :
    ∃ first second,
      (bytesWritten ((performAll reciting.recorded callsOfAnyText).run
        ⟨([], []), 1, false⟩).2.process.2).splitOn Text.lineFeed = [first, second, []] ∧
      (∃ text, String.fromUTF8? first.toByteArray = some text ∧
        RequestObject.ofText text = .ok ⟨1, "compile", "<p>\n\t\"é\"\r\n</p>"⟩) ∧
      ∃ text, String.fromUTF8? second.toByteArray = some text ∧
        RequestObject.ofText text = .ok ⟨2, "transpile", "'\\' + '😀\x00\x1f\x7f'"⟩ := by
  have hstart : runnerSample.start workspaceSample reciting.recorded
      (["\x7b\"ready\":true\x7d"], []) = .ok ⟨([], []), 1, false⟩ := rfl
  have hreceived : ∀ write ∈ ((performAll reciting.recorded callsOfAnyText).run
      ⟨([], []), 1, false⟩).2.process.2, write.received := by
    decide
  obtain ⟨-, lines, hsplit, hlength, hlines⟩ := performAll_framed callsOfAnyText hstart hreceived
  obtain ⟨first, second, rfl⟩ := List.length_eq_two.mp hlength
  obtain ⟨text, htext, hread, -⟩ := hlines 0 _ first rfl rfl
  obtain ⟨text', htext', hread', -⟩ := hlines 1 _ second rfl rfl
  exact ⟨first, second, hsplit, ⟨text, htext, hread⟩, text', htext', hread'⟩

end Worker

end SfcWeave
