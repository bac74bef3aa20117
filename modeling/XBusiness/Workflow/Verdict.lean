import XBusiness.Workflow.OwnMessage
import XBusiness.Workflow.PoolCourses
import XBusiness.Workflow.PoolRest

/-! # What `Final` reports

A session ends in a module or in the callback of its request, with the code of what went wrong there, or
with `kSuccess`.

* `Reports` — the reason that a module or a callback has for its code.
* `moduleProcess_reports` / `requestCallback_reports` — every code has its reason.
* `Verdict` — what the code says about the modules that were executed for the session.
* `final_reports_verdict` — so it is in every run of the pool.
-/

namespace XBusiness

open Interaction

/-! ## The reason for a code -/

/-- The reason that a module, or the callback of its request, has to report the code for its session; `chain`
    is what it was given of the chain. -/
inductive Reports (procType : ProcType) (chain : List ProcType) (session : Session) : ErrCode → Prop
  | complete (empty : chain = []) (left : session.procChain = []) : Reports procType chain session .success
  | waits (module : procType = .picWait) : Reports procType chain session .success
  | mongoFailed (module : procType = .getPlugin ∨ procType = .businessSave) :
      Reports procType chain session .mongoFailed
  | kafkaError (module : procType = .outputKafka) : Reports procType chain session .kafkaError
  | downloadError (module : procType = .traceSpace) (noImages : session.images = []) :
      Reports procType chain session .downloadError
  | procTerminate (http : procType.isHttp = true) : Reports procType chain session .procTerminate
  | httpConnError (http : procType.isHttp = true) (noRetries : session.httpRetryTime = 0) :
      Reports procType chain session .httpConnError

/-- The calls of a module: what it reports has its reason. -/
def FlowCall.reports (procType : ProcType) (chain : List ProcType) : FlowCall → Prop
  | final session err => Reports procType chain session err
  | _ => True

section Reporting

variable {env : Env} {procType : ProcType} {chain : List ProcType} {session after : Session} {ending : Ending}

theorem reports_of_outside (request : FlowCall) (outside : request.isOutside) : request.reports procType chain := by
  cases request <;> first | exact trivial | cases outside

/-- A session that goes on is finalised when its chain is empty. -/
theorem reports_of_passes {request : FlowCall} (kept : after.procChain = [] → chain = [])
    (call : Ending.Call .passes after request) : request.reports procType chain := by
  cases call with
  | completes _ empty => exact .complete (kept empty) empty
  | pushes => trivial

/-- A module has its reason for the ending that it comes to. -/
theorem reports_of_module {request : FlowCall} (does : ModuleDoes env session procType ending after)
    (call : ending.Call after request) : request.reports procType session.procChain := by
  cases does with
  | fills _ _ _ same =>
    have sameChain := procChain_of_itinerary (itinerary_of_unfilled same)
    exact reports_of_passes (fun empty => sameChain.symm.trans empty) call
  | plugs => exact reports_of_passes (fun empty => (List.append_eq_nil_iff.mp empty).1) call
  | fails _ _ _ module _ =>
    cases call
    cases module with
    | getPlugin => exact .mongoFailed (.inl rfl)
    | businessSave => exact .mongoFailed (.inr rfl)
    | outputKafka => exact .kafkaError rfl
    | picWait => exact .waits rfl
  | noImages empty =>
    cases call
    exact .downloadError rfl empty
  | noRequest _ _ http _ =>
    cases call
    exact .procTerminate http
  | asks =>
    cases call
    trivial

/-- So has the callback of a request. -/
theorem reports_of_callback {response : Option HttpResponse} {request : FlowCall} (http : procType.isHttp = true)
    (does : CallbackDoes env session procType response ending after) (call : ending.Call after request) :
    request.reports procType session.procChain := by
  cases does with
  | retries =>
    cases call
    trivial
  | exhausted spent =>
    have retries : (session.retreating procType).httpRetryTime = session.httpRetryTime :=
      congrArg Itinerary.httpRetryTime (itinerary_retreating session procType)
    cases call
    exact .httpConnError http (retries.trans spent)
  | accepts response _ ran =>
    apply reports_of_passes (fun empty => ?_) call
    cases procHandlerResponse_itinerary ran with
    | inl same => exact (procChain_of_itinerary same).symm.trans empty
    | inr next =>
      rw [procChain_of_itinerary next.2.2] at empty
      cases empty
  | refuses =>
    cases call
    exact .procTerminate http

/-- No session is finalised before the ending of a module. -/
theorem moduleBody_reports (env : Env) (procType : ProcType) (session : Session) :
    ((moduleBody env procType).run session).Makes (FlowCall.reports procType chain) fun result =>
      ModuleDoes env session procType result.1 result.2 := by
  by_cases wait : procType = .picWait
  · subst wait
    have news : NewSessionCalls env (FlowCall.reports .picWait chain) :=
      ⟨fun _ _ _ => trivial, fun _ _ => trivial, fun _ _ _ _ _ => trivial⟩
    have waits : ((getResultOfWait env).run session).Makes (FlowCall.reports .picWait chain) fun result =>
        result.2.unfilled = session.unfilled := by
      apply getResultOfWait_makes_of
      · exact ⟨trivial, fun _ _ => trivial, releaseWaiting_makesNew news⟩
      · exact ⟨trivial, trivial, trivial, trivial⟩
      · exact parseTraceAnswer_fills env _
    have body : ((moduleBody env .picWait).run session).Makes (FlowCall.reports .picWait chain) fun _ => True := by
      apply waits.bind
      rintro ⟨result, after⟩ -
      cases result <;> trivial
    exact (body.returning (moduleBody_does env .picWait session)).weaken fun _ both => both.2
  · apply (moduleBody_does env procType session).mono
    intro request calls
    exact reports_of_outside request (FlowCall.isOutside_of_quiet request (ProcType.quiet_of_calls wait request calls))

theorem moduleProcess_reports (env : Env) (procType : ProcType) (session : Session) :
    ((moduleProcess env procType).run session).Makes (FlowCall.reports procType session.procChain) fun _ => True := by
  rw [moduleProcess_eq]
  apply (moduleBody_reports env procType session).bind
  rintro ⟨ending, after⟩ does
  exact (ending_makes ending after).mono fun request call => reports_of_module does call

theorem requestCallback_reports (http : procType.isHttp = true) (response : Option HttpResponse)
    (session : Session) :
    ((requestCallback env procType response).run session).Makes (FlowCall.reports procType session.procChain)
      fun _ => True := by
  rcases requestCallback_does env procType response session with ⟨fault, ran⟩ | ⟨ending, after, does, ran⟩
  · rw [ran]
    trivial
  · rw [ran]
    exact (ending_makes ending after).mono fun request call => reports_of_callback http does call

end Reporting

/-! ## What the code says of the course -/

/-- What the code says about the modules that were executed for a session; `first` is the session as it was
    when it was taken first. -/
inductive Verdict (first : Session) (executed : List ProcType) (session : Session) : ErrCode → Prop
  /-- The whole chain was executed, in its order, with the output that `GetPlugin` may have added. -/
  | complete (subscribed : Bool) (left : session.procChain = [])
      (all : Repeats executed.reverse (first.procChain ++ addedOutput subscribed).reverse) :
      Verdict first executed session .success
  | waits (last : executed.getLast? = some .picWait) : Verdict first executed session .success
  | mongoFailed (last : executed.getLast? = some .getPlugin ∨ executed.getLast? = some .businessSave) :
      Verdict first executed session .mongoFailed
  | kafkaError (last : executed.getLast? = some .outputKafka) : Verdict first executed session .kafkaError
  | downloadError (last : executed.getLast? = some .traceSpace) (noImages : session.images = []) :
      Verdict first executed session .downloadError
  | procTerminate (procType : ProcType) (last : executed.getLast? = some procType) (http : procType.isHttp = true) :
      Verdict first executed session .procTerminate
  | httpConnError (procType : ProcType) (last : executed.getLast? = some procType) (http : procType.isHttp = true)
      (noRetries : session.httpRetryTime = 0) : Verdict first executed session .httpConnError

/-- The reason of the module that was executed last is that of the course. -/
theorem Reports.verdict {procType : ProcType} {chain executed : List ProcType} {first session : Session}
    {err : ErrCode} (reports : Reports procType chain session err) (last : executed.getLast? = some procType)
    (whole : chain = [] → ∃ subscribed,
      Repeats executed.reverse (first.procChain ++ addedOutput subscribed).reverse) :
    Verdict first executed session err := by
  cases reports with
  | complete empty left =>
    obtain ⟨subscribed, all⟩ := whole empty
    exact .complete subscribed left all
  | waits module => exact .waits (module ▸ last)
  | mongoFailed module =>
    cases module with
    | inl same => exact .mongoFailed (.inl (same ▸ last))
    | inr same => exact .mongoFailed (.inr (same ▸ last))
  | kafkaError module => exact .kafkaError (module ▸ last)
  | downloadError module noImages => exact .downloadError (module ▸ last) noImages
  | procTerminate http => exact .procTerminate procType last http
  | httpConnError http noRetries => exact .httpConnError procType last http noRetries

/-- The last module of a chain is executed. -/
theorem OnRoute.whole_inside {initial executed : List ProcType} {datatype : Int} {subscribed : Bool}
    {session : Session} {procType : ProcType}
    (onRoute : OnRoute initial datatype ⟨.queued session, executed, subscribed⟩)
    (chain : session.procChain = [procType]) :
    Repeats (procType :: executed) (initial ++ addedOutput subscribed).reverse := by
  cases onRoute with
  | queued _ _ done rest again _ split repeats found same putBack whole =>
    rw [chain] at whole
    rcases putBack with rfl | ⟨module, last, http, rfl⟩
    · cases rest with
      | nil =>
        -- the output that was added
        cases subscribed with
        | false => cases whole
        | true =>
          cases whole
          rw [split]
          simpa [addedOutput] using Repeats.step .outputKafka repeats
      | cons head rest =>
        obtain ⟨rfl, empty⟩ := List.cons.inj whole
        obtain ⟨rfl, none⟩ := List.append_eq_nil_iff.mp empty.symm
        rw [none, split]
        simpa using Repeats.step procType repeats
    · -- a module that was put back
      obtain ⟨rfl, empty⟩ := List.cons.inj whole
      obtain ⟨rfl, none⟩ := List.append_eq_nil_iff.mp empty.symm
      obtain ⟨earlier, rfl⟩ := List.head?_eq_some_iff.mp last
      rw [none, split]
      simpa using Repeats.again procType http repeats

/-- The response to the last request of a chain is answered. -/
theorem OnRoute.whole_answered {initial executed : List ProcType} {datatype : Int} {subscribed : Bool}
    {session : Session} {procType : ProcType} {request : RequestInfo}
    (onRoute : OnRoute initial datatype ⟨.requested session procType request, executed, subscribed⟩)
    (chain : session.procChain = []) : Repeats executed (initial ++ addedOutput subscribed).reverse := by
  cases onRoute with
  | requested _ _ _ _ done rest _ split repeats found same last http whole =>
    rw [chain] at whole
    obtain ⟨rfl, none⟩ := List.append_eq_nil_iff.mp whole.symm
    rw [none, split]
    simpa using repeats

/-- Inside the step of a course, what is reported agrees with the course. -/
theorem Works.verdict {env : Env} {first session ended : Session} {course : Course} {function : Flow Unit}
    {now : List ProcType} {err : ErrCode} {sight later : Sight} {rest : Unit → FlowProg Bool}
    (works : Works env course.pending session function now) (underway : Underway course.pending)
    (onRoute : OnRoute first.procChain first.itinerary.datatype course)
    (leads : Prog.Leads (Sight.after session.ref) (function.runOn session) sight (.call (.final ended err) rest) later) :
    course.executed.reverse ++ now ≠ [] ∧ Verdict first (course.executed.reverse ++ now) ended err := by
  obtain ⟨pending, executed, subscribed⟩ := course
  cases works with
  | process =>
    cases chain : session.procChain with
    | nil => exact absurd chain (underway.more session rfl)
    | cons procType more =>
      have makes : ((sessionProcess env).runOn session).Makes (FlowCall.reports procType more) fun _ => True := by
        apply Prog.Makes.bind
        · rw [sessionProcess_cons chain]
          exact moduleProcess_reports env procType { session with procChain := more }
        · exact fun _ _ => trivial
      have reports : Reports procType more ended err := (leads.makes makes).1
      refine ⟨by simp, reports.verdict (by simp) fun empty => ⟨subscribed, ?_⟩⟩
      rw [empty] at chain
      simpa using onRoute.whole_inside chain
  | answers _ procType request response =>
    have makes : ((requestCallback env procType response).runOn session).Makes
        (FlowCall.reports procType session.procChain) fun _ => True := by
      apply Prog.Makes.bind
      · exact requestCallback_reports (underway.http _ _ _ rfl) response session
      · exact fun _ _ => trivial
    have reports : Reports procType session.procChain ended err := (leads.makes makes).1
    have last : executed.head? = some procType := by
      cases onRoute with
      | requested _ _ _ _ _ _ _ _ _ _ _ last => exact last
    obtain ⟨earlier, rfl⟩ := List.head?_eq_some_iff.mp last
    refine ⟨by simp, reports.verdict (by simp) fun empty => ⟨subscribed, ?_⟩⟩
    simpa using onRoute.whole_answered empty

/-! ## Main result -/

/-- In any run of the pool, whatever its threads interleave and are answered: a thread that is about to finalise
    a session reports what has become of it.  With `kSuccess` its whole chain was executed, or the picture wait
    is over it; any other code names the module that was executed last. -/
theorem final_reports_verdict (env : Env) (commitNum : Int) (workerNum maxTaskNum : Nat)
    (labels : List PoolLabel) (state : PoolState)
    (ran : (poolMachine env commitNum workerNum maxTaskNum).run
      (poolMachine env commitNum workerNum maxTaskNum).start labels = some state)
    (thread : PoolThread) (mem : thread ∈ state.threads) (session : Session) (err : ErrCode)
    (rest : Unit → FlowProg Bool) (calling : thread.program = .call (.final session err) rest) :
    ∃ first again, taken ((poolMachine env commitNum workerNum maxTaskNum).observe visits
        (poolMachine env commitNum workerNum maxTaskNum).start labels []) session.ref = first :: again ∧
      Created env first ∧ Verdict first (modules (first :: again)) session err := by
  obtain ⟨acts, courses, reached, related⟩ := (pool_simulates env commitNum workerNum maxTaskNum).run .start
    (pool_simulates env commitNum workerNum maxTaskNum).start (Machine.run_observed ran)
  cases related.follows.threads thread mem with
  | returned value returned =>
    rw [calling] at returned
    cases returned
  | handles closing =>
    rw [calling] at closing
    rcases closing with ⟨⟨_, _, impossible⟩, _⟩ | ⟨impossible, _⟩
    · cases impossible
    · exact impossible.elim
  | works pending worked function now sight works located leads closing =>
    rw [calling] at closing leads
    -- the session that ends is the one that the thread works on
    have sameRef : session.ref = worked.ref := by
      rcases closing with ⟨⟨_, handed, same⟩, _⟩ | ⟨impossible, _⟩
      · cases handed
        exact (Option.some.inj same).symm
      · exact impossible.elim
    obtain ⟨course, found, rfl, visited⟩ := located
    obtain ⟨first, _, created, -, member, isFirst, -, -⟩ := related.origin worked.ref course found
    have underway := underway_of_reachable created member
    have onRoute := onRoute_of_reachable created member
    obtain ⟨nonempty, verdict⟩ := works.verdict underway onRoute leads
    rw [sameRef]
    rw [← visited] at nonempty verdict
    cases visits : taken _ worked.ref with
    | nil =>
      rw [visits] at nonempty
      exact absurd rfl nonempty
    | cons head again =>
      rw [visits] at isFirst verdict
      cases isFirst head rfl
      exact ⟨first, again, rfl, created, verdict⟩

set_option maxRecDepth 4000 in
/-- The download has failed four times, and no retry is left. -/
theorem final_reports_verdict_traceThroughRetries :
    ∃ state thread session rest first again,
      (poolMachine poolEnv 1 1 10).run (poolMachine poolEnv 1 1 10).start (traceThroughRetries.take 39) = some state ∧
      thread ∈ state.threads ∧ thread.program = .call (.final session .httpConnError) rest ∧
      taken ((poolMachine poolEnv 1 1 10).observe visits (poolMachine poolEnv 1 1 10).start
        (traceThroughRetries.take 39) []) session.ref = first :: again ∧
      Verdict first (modules (first :: again)) session .httpConnError := by
  obtain ⟨state, thread, session, rest, ran, mem, calling⟩ : ∃ state thread session rest,
      (poolMachine poolEnv 1 1 10).run (poolMachine poolEnv 1 1 10).start (traceThroughRetries.take 39) = some state ∧
        thread ∈ state.threads ∧ thread.program = .call (.final session .httpConnError) rest :=
    ⟨_, _, _, _, rfl, List.mem_cons_self, rfl⟩
  obtain ⟨first, again, visited, -, verdict⟩ := final_reports_verdict poolEnv 1 1 10 (traceThroughRetries.take 39)
    state ran thread mem session .httpConnError rest calling
  exact ⟨state, thread, session, rest, first, again, ran, mem, calling, visited, verdict⟩

end XBusiness
