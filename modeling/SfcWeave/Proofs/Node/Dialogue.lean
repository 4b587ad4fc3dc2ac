import Mathlib.Data.List.Nodup
import SfcWeave.Node.Installation
import SfcWeave.Proofs.Node.Message
import SfcWeave.Proofs.Result

/-!
# Every call gets its own answer

A worker may be used for any number of calls, also after some have failed, and its process may do
anything: write lines that are no messages, answer twice or not at all, stop reading, end. Each
call is an exchange of at most one line each way. What all calls of a worker exchange is, in order,
all that passes between the worker and its process (`Served`).

The numbers of the requests are those of the calls, while the lines that are read may lag behind:
what keeps answers apart is that no number is used twice (`Exchange.eq_of_sent_mem`).
-/

namespace SfcWeave

variable {σ : Type} {process : Child σ}

/-! ### What passes between a process and who uses it -/

namespace Child

/-- A line for a process, or something of its output. -/
inductive Event where
  | sent (line : String) (received : Bool)
  | taken (output : Output)
deriving DecidableEq, Repr

/-- Some lines are given to the process, and some of its output is read. -/
inductive Dialogue (process : Child σ) : σ → List Event → σ → Prop where
  | nil {state} : Dialogue process state [] state
  | sent {line received state next events last} :
      process.receive line state = (received, next) → Dialogue process next events last →
      Dialogue process state (.sent line received :: events) last
  | taken {output state next events last} :
      process.read state = (output, next) → Dialogue process next events last →
      Dialogue process state (.taken output :: events) last

theorem Dialogue.append {state between last : σ} {events others : List Event}
    (h : process.Dialogue state events between) (hrest : process.Dialogue between others last) :
    process.Dialogue state (events ++ others) last := by
  induction h with
  | nil => exact hrest
  | sent hreceive _ ih => exact .sent hreceive (ih hrest)
  | taken hread _ ih => exact .taken hread (ih hrest)

theorem Dialogue.exists_of_append {state last : σ} {events others : List Event}
    (h : process.Dialogue state (events ++ others) last) :
    ∃ between, process.Dialogue state events between ∧ process.Dialogue between others last := by
  induction events generalizing state with
  | nil => exact ⟨state, .nil, h⟩
  | cons event events ih =>
    cases h with
    | sent hreceive hrest =>
      obtain ⟨between, hfirst, hlast⟩ := ih hrest
      exact ⟨between, .sent hreceive hfirst, hlast⟩
    | taken hread hrest =>
      obtain ⟨between, hfirst, hlast⟩ := ih hrest
      exact ⟨between, .taken hread hfirst, hlast⟩

/-- After the end of its output a process writes nothing more, whatever it is given. -/
def EndsForGood (process : Child σ) : Prop :=
  ∀ state code diagnostics next events last,
    process.read state = (.ended code diagnostics, next) → process.Dialogue next events last →
    ∀ text, .taken (.line text) ∉ events

end Child

/-! ### Calls -/

namespace ToolchainCall

/-- The request for a call. -/
def request (id : Nat) : ToolchainCall → Request
  | compile template => ⟨id, .compile, template⟩
  | transpile code => ⟨id, .transpile, code⟩

theorem request_inj {m n : Nat} {a b : ToolchainCall} (h : a.request m = b.request n) :
    m = n ∧ a = b := by
  cases a <;> cases b <;> cases h <;> exact ⟨rfl, rfl⟩

end ToolchainCall

namespace Worker

/-- What a call of a worker gives. -/
inductive Answer where
  | template (output : TemplateOutput)
  | code (code : String)
deriving DecidableEq, Repr

/-- What a response says to a call. -/
def answerIn (response : Response) : ToolchainCall → Except NodeError Answer
  | .compile _ => response.toTemplateOutput.map .template
  | .transpile _ => response.toCode.map .code

/-- Does a result tell something that the process has said? -/
def isPayload : Except NodeError Answer → Bool
  | .ok _ => true
  | .error (.remote _) => true
  | .error _ => false

/-- A call of a worker. -/
def perform (process : Child σ) : ToolchainCall → WorkerAction σ Answer
  | .compile template => .template <$> compile process template
  | .transpile code => .code <$> transpile process code

/-- Calls of a worker, one after another, whether they fail or not. -/
def performAll (process : Child σ) (calls : List ToolchainCall) :
    StateM (Worker σ) (List (Except NodeError Answer)) :=
  calls.mapM fun call => (perform process call).run

theorem performAll_cons (call : ToolchainCall) (calls : List ToolchainCall) (worker : Worker σ) :
    (performAll process (call :: calls)).run worker =
      let first := (perform process call).run.run worker
      let rest := (performAll process calls).run first.2
      (first.1 :: rest.1, rest.2) := by
  unfold performAll
  rw [List.mapM_cons]
  rfl

/-! ### A single call -/

/-- What a call may give after what it has read; nothing is read when its request cannot be
written. -/
inductive Gives (call : ToolchainCall) (id : Nat) :
    Option Output → Except NodeError Answer → Prop where
  | unwritten : Gives call id none
      (.error (.protocol ("failed to write to node stdin: " ++ SystemError.brokenPipe.message)))
  | garbled : Gives call id (some .garbled)
      (.error (.protocol ("failed to read node output: " ++ SystemError.notText.message)))
  | ended {code diagnostics} (reported : String) (h : reported ∈ ["", diagnostics]) :
      Gives call id (some (.ended code diagnostics))
        (.error (.processFailed (code.getD (-1)) reported))
  | unreadable {text reason} (h : Response.ofLine (dropReturn text) = .error (.unreadable reason)) :
      Gives call id (some (.line text)) (.error (.unreadable reason))
  | unnumbered {text response} (h : Response.ofLine (dropReturn text) = .ok response)
      (hid : response.id = none) :
      Gives call id (some (.line text)) (.error (.protocol
        (response.error.getD ("missing response id: " ++ dropReturn text))))
  | stray {text response other} (h : Response.ofLine (dropReturn text) = .ok response)
      (hid : response.id = some other) (hne : other ≠ id) :
      Gives call id (some (.line text)) (.error (.protocol
        ("expected response " ++ toString id ++ ", got " ++ toString other)))
  | own {text response} (h : Response.ofLine (dropReturn text) = .ok response)
      (hid : response.id = some id) :
      Gives call id (some (.line text)) (answerIn response call)

/-- Does a result tell why there is no payload? -/
def isRefusal : Except NodeError Answer → Bool
  | .error (.protocol _) => true
  | .error (.unreadable _) => true
  | .error (.processFailed ..) => true
  | _ => false

theorem isPayload_or_isRefusal_answerIn (response : Response) (call : ToolchainCall) :
    isPayload (answerIn response call) ∨ isRefusal (answerIn response call) := by
  cases call with
  | compile template =>
    rw [answerIn]
    fun_cases Response.toTemplateOutput response
    · exact .inl rfl
    · exact .inl rfl
    · exact .inr rfl
    · exact .inl rfl
  | transpile code =>
    rw [answerIn]
    fun_cases Response.toCode response
    · exact .inl rfl
    · exact .inr rfl
    · exact .inl rfl

section Gives

variable {call : ToolchainCall} {id : Nat} {output : Option Output}
  {result : Except NodeError Answer}

/-- A call without a payload is told why. -/
theorem Gives.isRefusal (h : Gives call id output result) (hno : isPayload result = false) :
    Worker.isRefusal result = true := by
  cases h with
  | own hread hid => exact (isPayload_or_isRefusal_answerIn _ call).resolve_left (by simp [hno])
  | _ => rfl

/-- Only a response with its own number gives a call a payload. -/
theorem Gives.exists_response (h : Gives call id output result) (hpayload : isPayload result) :
    ∃ text response, output = some (.line text) ∧
      Response.ofLine (dropReturn text) = .ok response ∧ response.id = some id ∧
      result = answerIn response call := by
  cases h with
  | own hread hid => exact ⟨_, _, rfl, hread, hid, rfl⟩
  | _ => cases hpayload

end Gives

/-- A call of a worker: its request, what was read for it, and what it gives. -/
structure Exchange where
  id : Nat
  call : ToolchainCall
  output : Option Output
  result : Except NodeError Answer

namespace Exchange

/-- What passes between the worker and its process for a call. -/
def events (exchange : Exchange) : List Child.Event :=
  .sent (exchange.call.request exchange.id).print exchange.output.isSome ::
    exchange.output.toList.map .taken

end Exchange

section Run

variable (worker : Worker σ)

theorem run_ofExcept {α : Type} (result : Except NodeError α) :
    (ofExcept result).run.run worker = (result, worker) := rfl

theorem map_ofExcept {α β : Type} (f : α → β) (result : Except NodeError α) :
    f <$> (ofExcept result : WorkerAction σ α) = ofExcept (result.map f) := by
  cases result <;> rfl

theorem run_modifyGet {α : Type} (f : Worker σ → α × Worker σ) :
    (modifyGet f : WorkerAction σ α).run.run worker = (.ok (f worker).1, (f worker).2) := rfl

theorem run_takeId :
    (takeId (σ := σ)).run.run worker =
      (.ok worker.nextId, { worker with nextId := worker.nextId + 1 }) := rfl

theorem run_writeLine (line : String) :
    (writeLine process line).run.run worker =
      match process.receive line worker.process with
      | (true, next) => (.ok (), { worker with process := next })
      | (false, next) =>
        (.error (.protocol ("failed to write to node stdin: " ++ SystemError.brokenPipe.message)),
          { worker with process := next }) := by
  rw [writeLine, ExceptT.run_run_bind, run_modifyGet]
  rcases process.receive line worker.process with ⟨_ | _, next⟩ <;> rfl

theorem run_readLine :
    (readLine process).run.run worker =
      match process.read worker.process with
      | (.line text, next) => (.ok (dropReturn text), { worker with process := next })
      | (.garbled, next) =>
        (.error (.protocol ("failed to read node output: " ++ SystemError.notText.message)),
          { worker with process := next })
      | (.ended code diagnostics, next) =>
        (.error (.processFailed (code.getD (-1)) (if worker.diagnosed then "" else diagnostics)),
          { worker with process := next, diagnosed := true }) := by
  rw [readLine, ExceptT.run_run_bind, run_modifyGet]
  rcases process.read worker.process with ⟨_ | _ | _, next⟩ <;> rfl

theorem nextId_awaitReady (process : Child σ) (worker : Worker σ) :
    ((awaitReady process).run.run worker).2.nextId = worker.nextId := by
  rw [awaitReady, ExceptT.run_run_bind, run_readLine]
  rcases process.read worker.process with ⟨text | _ | _, next⟩
  · simp only [ExceptT.run_run_bind, run_ofExcept]
    rcases Ready.ofLine (dropReturn text) with error | ⟨_ | _⟩ <;> rfl
  · rfl
  · rfl

end Run

/-- A worker that has just been started has numbered nothing yet. -/
theorem nextId_of_start {runner : Runner} {tree : FileTree} {initial : σ} {worker : Worker σ}
    (h : runner.start tree process initial = .ok worker) : worker.nextId = 1 := by
  have hkept := nextId_awaitReady process ⟨initial, 1, false⟩
  unfold Runner.start at h
  split at h
  · cases h
  · split at h
    · rename_i hready
      cases h
      exact (congrArg (·.2.nextId) hready).symm.trans hkept
    · cases h

/-- A call asks for a response and takes the answer from it. -/
theorem perform_eq (call : ToolchainCall) (id : Nat) :
    perform process call =
      request process (call.request id).kind (call.request id).source >>= fun response =>
        ofExcept (answerIn response call) := by
  cases call with
  | compile template =>
    simp only [perform, compile, map_bind, map_ofExcept]
    rfl
  | transpile code =>
    simp only [perform, transpile, map_bind, map_ofExcept]
    rfl

theorem run_perform (process : Child σ) (call : ToolchainCall) (worker : Worker σ) :
    (perform process call).run.run worker =
      match process.receive (call.request worker.nextId).print worker.process with
      | (false, next) =>
        (.error (.protocol ("failed to write to node stdin: " ++ SystemError.brokenPipe.message)),
          ⟨next, worker.nextId + 1, worker.diagnosed⟩)
      | (true, given) =>
        match process.read given with
        | (.line text, next) =>
          (responseTo worker.nextId (dropReturn text) >>= (answerIn · call),
            ⟨next, worker.nextId + 1, worker.diagnosed⟩)
        | (.garbled, next) =>
          (.error (.protocol ("failed to read node output: " ++ SystemError.notText.message)),
            ⟨next, worker.nextId + 1, worker.diagnosed⟩)
        | (.ended code diagnostics, next) =>
          (.error (.processFailed (code.getD (-1)) (if worker.diagnosed then "" else diagnostics)),
            ⟨next, worker.nextId + 1, true⟩) := by
  have hprint : (call.request worker.nextId).print = Request.print
      ⟨worker.nextId, (call.request worker.nextId).kind, (call.request worker.nextId).source⟩ := by
    cases call <;> rfl
  rw [perform_eq call worker.nextId, request, hprint]
  simp only [ExceptT.run_run_bind, run_takeId, run_writeLine]
  rcases process.receive _ worker.process with ⟨_ | _, given⟩
  · rfl
  · simp only [run_readLine]
    rcases process.read given with ⟨text | _ | _, next⟩
    · simp only [run_ofExcept]
      cases responseTo worker.nextId (dropReturn text) <;> rfl
    · rfl
    · rfl

theorem gives_line (call : ToolchainCall) (id : Nat) (text : String) :
    Gives call id (some (.line text))
      (responseTo id (dropReturn text) >>= (answerIn · call)) := by
  unfold responseTo
  rcases hread : Response.ofLine (dropReturn text) with error | response
  · obtain ⟨reason, rfl⟩ := Response.eq_unreadable hread
    exact .unreadable hread
  · rcases hid : response.id with _ | got
    · simp only [bind, Except.bind, hid]
      exact .unnumbered hread hid
    · by_cases hown : got = id
      · subst hown
        simp only [bind, Except.bind, hid, if_true]
        exact .own hread hid
      · simp only [bind, Except.bind, hid, if_neg hown]
        exact .stray hread hid hown

/-- What a call exchanges with the process. -/
theorem exists_exchange (process : Child σ) (call : ToolchainCall) (worker : Worker σ) :
    ∃ exchange : Exchange, ∃ next,
      exchange.id = worker.nextId ∧ exchange.call = call ∧
      Gives call exchange.id exchange.output exchange.result ∧
      (perform process call).run.run worker = (exchange.result, next) ∧
      next.nextId = worker.nextId + 1 ∧
      process.Dialogue worker.process exchange.events next.process := by
  have hrun := run_perform process call worker
  rcases hreceive : process.receive (call.request worker.nextId).print worker.process
    with ⟨_ | _, given⟩
  · rw [hreceive] at hrun
    exact ⟨⟨worker.nextId, call, none, _⟩, _, rfl, rfl, .unwritten, hrun, rfl,
      .sent hreceive .nil⟩
  · simp only [hreceive] at hrun
    rcases hread : process.read given with ⟨text | _ | ⟨code, diagnostics⟩, last⟩
    · rw [hread] at hrun
      exact ⟨⟨worker.nextId, call, some (.line text), _⟩, _, rfl, rfl, gives_line .., hrun, rfl,
        .sent hreceive (.taken hread .nil)⟩
    · rw [hread] at hrun
      exact ⟨⟨worker.nextId, call, some .garbled, _⟩, _, rfl, rfl, .garbled, hrun, rfl,
        .sent hreceive (.taken hread .nil)⟩
    · rw [hread] at hrun
      refine ⟨⟨worker.nextId, call, some (.ended code diagnostics), _⟩, _, rfl, rfl,
        .ended _ ?_, hrun, rfl, .sent hreceive (.taken hread .nil)⟩
      by_cases hdiagnosed : worker.diagnosed <;> simp [hdiagnosed]

/-! ### All calls of a worker -/

/-- What a worker exchanges with its process for calls is all that passes between them. -/
theorem exists_exchanges (process : Child σ) (calls : List ToolchainCall) (worker : Worker σ) :
    ∃ exchanges : List Exchange,
      exchanges.map (·.call) = calls ∧
      exchanges.map (·.id) = List.range' worker.nextId calls.length ∧
      exchanges.map (·.result) = ((performAll process calls).run worker).1 ∧
      (∀ exchange ∈ exchanges,
        Gives exchange.call exchange.id exchange.output exchange.result) ∧
      process.Dialogue worker.process (exchanges.flatMap Exchange.events)
        ((performAll process calls).run worker).2.process := by
  induction calls generalizing worker with
  | nil => exact ⟨[], rfl, rfl, rfl, by simp, .nil⟩
  | cons call calls ih =>
    obtain ⟨exchange, next, hid, rfl, hgives, hrun, hnext, hfirst⟩ :=
      exists_exchange process call worker
    obtain ⟨exchanges, hcalls, hids, hresults, hall, hrest⟩ := ih next
    rw [hnext] at hids
    refine ⟨exchange :: exchanges, ?_, ?_, ?_, ?_, ?_⟩
    · rw [List.map_cons, hcalls]
    · rw [List.map_cons, hids, hid, List.length_cons, List.range'_succ]
    · simp only [performAll_cons, hrun, List.map_cons, hresults]
    · exact List.forall_mem_cons.mpr ⟨hgives, hall⟩
    · simp only [performAll_cons, hrun, List.flatMap_cons]
      exact hfirst.append hrest

theorem Exchange.events_of_output {exchange : Exchange} {output : Output}
    (h : exchange.output = some output) :
    exchange.events =
      [.sent (exchange.call.request exchange.id).print true, .taken output] := by
  simp [events, h]

theorem Exchange.mem_events_of_output {exchange : Exchange} {output : Output}
    (h : exchange.output = some output) : .taken output ∈ exchange.events := by
  simp [events_of_output h]

/-- No request line is used by two calls. -/
theorem Exchange.eq_of_sent_mem {exchanges : List Exchange} {exchange : Exchange}
    (hids : (exchanges.map (·.id)).Nodup) (hmem : exchange ∈ exchanges) {call : ToolchainCall}
    {received : Bool}
    (hsent : .sent (call.request exchange.id).print received ∈ exchanges.flatMap events) :
    call = exchange.call := by
  obtain ⟨other, hother, hevent⟩ := List.mem_flatMap.mp hsent
  simp only [events, List.mem_cons, Child.Event.sent.injEq, List.mem_map, reduceCtorEq, and_false,
    exists_false, or_false] at hevent
  obtain ⟨hid, hcall⟩ := ToolchainCall.request_inj (Request.eq_of_print_eq hevent.1)
  obtain rfl := List.inj_on_of_nodup_map hids hmem hother hid
  exact hcall

/-- A process whose numbered responses answer earlier requests with their numbers. -/
def AnswersByNumber (Answers : ToolchainCall → Response → Prop) (events : List Child.Event) :
    Prop :=
  ∀ before text after response id, events = before ++ .taken (.line text) :: after →
    Response.ofLine (dropReturn text) = .ok response → response.id = some id →
    ∃ call received, .sent (call.request id).print received ∈ before ∧ Answers call response

/-- Calls of a worker, with what it exchanges with its process for each. -/
structure Served (process : Child σ) (worker : Worker σ) (calls : List ToolchainCall)
    (exchanges : List Exchange) : Prop where
  inOrder : exchanges.map (·.call) = calls
  results : exchanges.map (·.result) = ((performAll process calls).run worker).1
  /-- The requests have the numbers of the calls, counted from one. -/
  ids : exchanges.map (·.id) = List.range' 1 calls.length
  /-- The exchanges, one after another, are all that passes between the worker and its process:
  what one call has read is gone for the others. -/
  dialogue : process.Dialogue worker.process (exchanges.flatMap Exchange.events)
    ((performAll process calls).run worker).2.process
  gives : ∀ exchange ∈ exchanges,
    Gives exchange.call exchange.id exchange.output exchange.result
  /-- What the process says reaches a call only in a response with the number of the call. -/
  payload : ∀ exchange ∈ exchanges, isPayload exchange.result → ∃ text response,
    exchange.output = some (.line text) ∧ Response.ofLine (dropReturn text) = .ok response ∧
    response.id = some exchange.id ∧ exchange.result = answerIn response exchange.call
  refusal : ∀ exchange ∈ exchanges, isPayload exchange.result = false → isRefusal exchange.result
  /-- After the end of the output no call has a payload. -/
  afterEnd : process.EndsForGood → ∀ before exchange after,
    exchanges = before ++ exchange :: after →
    (∃ code diagnostics, exchange.output = some (.ended code diagnostics)) →
    ∀ later ∈ after, isPayload later.result = false
  /-- Every payload is the answer to the very call that has it. -/
  own : ∀ Answers, AnswersByNumber Answers (exchanges.flatMap Exchange.events) →
    ∀ exchange ∈ exchanges, isPayload exchange.result →
      ∃ response, Answers exchange.call response ∧ exchange.result = answerIn response exchange.call

section Served

variable {exchanges : List Exchange}

theorem isPayload_eq_false_of_ended {state last : σ} (hends : process.EndsForGood)
    (hgives : ∀ exchange ∈ exchanges,
      Gives exchange.call exchange.id exchange.output exchange.result)
    (hdialogue : process.Dialogue state (exchanges.flatMap Exchange.events) last)
    {before after : List Exchange} {exchange : Exchange} {code : Option Int} {diagnostics : String}
    (hsplit : exchanges = before ++ exchange :: after)
    (hended : exchange.output = some (.ended code diagnostics)) :
    ∀ later ∈ after, isPayload later.result = false := by
  intro later hlater
  subst hsplit
  rw [List.flatMap_append, List.flatMap_cons, Exchange.events_of_output hended] at hdialogue
  obtain ⟨start, -, hrest⟩ := hdialogue.exists_of_append
  cases hrest with
  | sent _ hrest =>
    cases hrest with
    | taken hread hrest =>
      rw [Bool.eq_false_iff]
      intro hpayload
      obtain ⟨text, -, houtput, -⟩ := (hgives later (by simp [hlater])).exists_response hpayload
      exact hends _ _ _ _ _ _ hread hrest text
        (List.mem_flatMap.mpr ⟨later, hlater, Exchange.mem_events_of_output houtput⟩)

theorem exists_answer {Answers : ToolchainCall → Response → Prop}
    (hids : (exchanges.map (·.id)).Nodup)
    (hgives : ∀ exchange ∈ exchanges,
      Gives exchange.call exchange.id exchange.output exchange.result)
    (hanswers : AnswersByNumber Answers (exchanges.flatMap Exchange.events))
    {exchange : Exchange} (hmem : exchange ∈ exchanges) (hpayload : isPayload exchange.result) :
    ∃ response, Answers exchange.call response ∧
      exchange.result = answerIn response exchange.call := by
  obtain ⟨text, response, houtput, hread, hid, hresult⟩ :=
    (hgives exchange hmem).exists_response hpayload
  obtain ⟨before, after, rfl⟩ := List.append_of_mem hmem
  have hevents : (before ++ exchange :: after).flatMap Exchange.events =
      (before.flatMap Exchange.events ++
        [.sent (exchange.call.request exchange.id).print true]) ++
      .taken (.line text) :: after.flatMap Exchange.events := by
    simp [Exchange.events_of_output houtput]
  obtain ⟨call, received, hsent, hanswer⟩ := hanswers _ _ _ _ _ hevents hread hid
  have hmemSent : .sent (call.request exchange.id).print received ∈
      (before ++ exchange :: after).flatMap Exchange.events := by
    rw [hevents]
    exact List.mem_append_left _ hsent
  obtain rfl := Exchange.eq_of_sent_mem hids hmem hmemSent
  exact ⟨response, hanswer, hresult⟩

end Served

/-- A worker that has been started serves any calls, each with its own answer. -/
theorem exists_served {runner : Runner} {tree : FileTree} {initial : σ} {worker : Worker σ}
    (hstart : runner.start tree process initial = .ok worker) (calls : List ToolchainCall) :
    ∃ exchanges, Served process worker calls exchanges := by
  obtain ⟨exchanges, hcalls, hids, hresults, hgives, hdialogue⟩ :=
    exists_exchanges process calls worker
  rw [nextId_of_start hstart] at hids
  exact ⟨exchanges, {
    inOrder := hcalls
    results := hresults
    ids := hids
    dialogue := hdialogue
    gives := hgives
    payload := fun exchange hmem hpayload => (hgives exchange hmem).exists_response hpayload
    refusal := fun exchange hmem hno => (hgives exchange hmem).isRefusal hno
    afterEnd := fun hends before exchange after hsplit ⟨code, diagnostics, hended⟩ =>
      isPayload_eq_false_of_ended hends hgives hdialogue hsplit hended
    own := fun Answers hanswers exchange hmem hpayload =>
      exists_answer (hids ▸ List.nodup_range') hgives hanswers hmem hpayload }⟩

/-! ### A process that does not listen -/

/-- The process that writes lines whatever it is asked, and then ends. -/
def reciting : Child (List String) where
  receive _ lines := (true, lines)
  read
    | [] => (.ended (some 0) "", [])
    | line :: lines => (.line line, lines)

theorem endsForGood_reciting : reciting.EndsForGood := by
  intro state code diagnostics next events last hread hdialogue text
  obtain ⟨rfl, rfl⟩ : state = [] ∧ next = [] := by
    cases state with
    | nil => exact ⟨rfl, (Prod.mk.inj hread).2.symm⟩
    | cons line lines => cases (Prod.mk.inj hread).1
  clear hread
  generalize hnil : ([] : List String) = lines at hdialogue
  induction hdialogue with
  | nil => simp
  | sent hreceive _ ih =>
    cases hreceive
    simpa using ih hnil
  | taken hread _ ih =>
    subst hnil
    cases hread
    simpa using ih rfl

/-- A tree with a workspace and a node program in it. -/
def workspaceSample : FileTree :=
  ⟨[(["app"], .directory), (["app", "node"], .file (.text ""))]⟩

def runnerSample : Runner := ⟨.ofText "/app/node", .ofText "/app", .ofText "/app/runner.mjs"⟩

/-- A stray response, responses to the second and the third request, and nothing more. -/
def linesSample : List String :=
  ["\x7b\"id\":9,\"render\":\"a\"\x7d", "\x7b\"id\":2,\"code\":\"b\"\x7d",
    "\x7b\"id\":3,\"render\":\"c\",\"staticRenderFns\":[\"d\"]\x7d"]

def callsSample : List ToolchainCall :=
  [.compile "<p/>", .transpile "f()", .compile "<b/>", .compile "<i/>"]

theorem exists_served_reciting :
    runnerSample.start workspaceSample reciting ("\x7b\"ready\":true\x7d" :: linesSample) =
      .ok ⟨linesSample, 1, false⟩ ∧
    reciting.EndsForGood ∧
    ((performAll reciting callsSample).run ⟨linesSample, 1, false⟩).1 =
      [.error (.protocol "expected response 1, got 9"), .ok (.code "b"),
        .ok (.template (.compiled ⟨"c", ["d"]⟩)), .error (.processFailed 0 "")] ∧
    ∃ exchanges, Served reciting ⟨linesSample, 1, false⟩ callsSample exchanges :=
  have hstart : runnerSample.start workspaceSample reciting
      ("\x7b\"ready\":true\x7d" :: linesSample) = .ok ⟨linesSample, 1, false⟩ := rfl
  ⟨hstart, endsForGood_reciting, rfl, exists_served hstart callsSample⟩

end Worker

end SfcWeave
