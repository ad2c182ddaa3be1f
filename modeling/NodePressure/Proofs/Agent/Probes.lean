import NodePressure.Agent.Router
import NodePressure.Proofs.Agent.Paths
import NodePressure.Proofs.Telemetry.Verdict

/-!
# NodePressure.Proofs.Agent.Probes - what the probes say of the parts

Requests leave what was told as it was (`Telemetry.after_eq_hear`), so a probe answers for what the
parts have told before it. The two probes ask different things of the registry. Both go by which
parts are unhealthy (`Telemetry.code_health_iff`, `Telemetry.code_readiness_iff`), and a probe of
readiness that fails says which ones (`Registry.Refusal`).
-/

namespace NodePressure

/-! ## Why the agent is not ready -/

namespace Registry

variable {g : Registry} {part : String}

theorem mem_failing_iff : part ∈ g.failing ↔ g.statusOf? part = some .unhealthy := by
  simp [failing, statusOf?_eq_some_iff, Status.isOperational_eq_false_iff]

theorem nodup_failing (g : Registry) : g.failing.Nodup :=
  g.components.nodup_names.sublist (List.filter_sublist.map _)

/-- The reason why the agent is not ready: its controller does not run, or parts are unhealthy, each
of which is listed once. -/
inductive Refusal (g : Registry) : String → Prop
  | notStarted (h : g.running = false) : Refusal g "Controller not yet started"
  | down (h : g.running = true) (names : List String) (nodup : names.Nodup)
      (mem : ∀ part, part ∈ names ↔ g.statusOf? part = some .unhealthy) :
      Refusal g ("Unhealthy components: " ++ ", ".intercalate names)

theorem exists_refusal (h : g.readiness.ready = false) :
    ∃ reason, g.Refusal reason ∧ g.readiness = ⟨false, some reason⟩ := by
  rw [readiness] at h ⊢
  cases hrunning : g.running with
  | false => exact ⟨_, .notStarted hrunning, rfl⟩
  | true =>
    cases hverdict : g.status.isOperational with
    | true => simp [hrunning, hverdict] at h
    | false =>
      exact ⟨_, .down hrunning g.failing g.nodup_failing fun _ => mem_failing_iff, rfl⟩

end Registry

/-! ## Runs -/

/-- Whether a note says that the controller runs. -/
def Note.running? : Note → Option Bool
  | .running b => some b
  | _ => none

/-- What reaches the agent: a note of one of its parts, at some time, or a request. -/
inductive Arrival
  | note (told : Int × Note)
  | request (method address : String)

/-- The note that arrives, if it is one. -/
def Arrival.note? : Arrival → Option (Int × Note)
  | note told => some told
  | request .. => none

namespace Telemetry

variable {t : Telemetry} {ns : List (Int × Note)} {as : List Arrival} {address : String}

/-- Takes up a note, or answers a request. -/
def attend (t : Telemetry) : Arrival → Telemetry × Option Response
  | .note told => (t.take told.1 told.2, none)
  | .request method address => (t, some (t.answer method address))

/-- What becomes of all that arrives. -/
def after (t : Telemetry) (as : List Arrival) : Telemetry :=
  as.foldl (fun t a => (t.attend a).1) t

/-- Requests change nothing. -/
theorem after_eq_hear : t.after as = t.hear (as.filterMap Arrival.note?) := by
  induction as generalizing t with
  | nil => rfl
  | cons a as ih =>
    rw [after, List.foldl_cons, ← after, ih, List.filterMap_cons]
    cases a <;> rfl

theorem running_take (t : Telemetry) (moment : Int) (n : Note) :
    (t.take moment n).health.running = n.running?.getD t.health.running := by
  cases n with
  | taintCall d c error => cases error <;> rfl
  | _ => rfl

theorem running_hear : (t.hear ns).health.running =
    ((ns.filterMap fun told => told.2.running?).getLast?).getD t.health.running := by
  induction ns generalizing t with
  | nil => rfl
  | cons n ns ih =>
    rw [hear, List.foldl_cons, ← hear, ih, running_take, List.filterMap_cons]
    cases n.2.running? with
    | none => rfl
    | some b => rw [List.getLast?_cons, Option.getD_some, Option.getD_some]

/-! ## Answers -/

theorem answer_of_names {r : Route} {method : String} (h : Route.Names address r.path) :
    t.answer method address =
      if method = "GET" then t.read r
      else if method = "HEAD" then { t.read r with body := .empty }
      else ⟨405, none, some "GET,HEAD", .empty⟩ := by
  simp [answer, Route.ofAddress?_eq_some_iff.mpr h]

theorem code_answer_of_stray {method : String} (h : ∀ r : Route, ¬ Route.Names address r.path) :
    (t.answer method address).code = 404 := by
  have hnone : Route.ofAddress? address = none :=
    Option.eq_none_iff_forall_ne_some.mpr fun r hr => h r (Route.ofAddress?_eq_some_iff.mp hr)
  rw [answer, hnone]

/-- A probe that is read without its answer has the code of the answer. -/
theorem code_head (t : Telemetry) (address : String) :
    (t.answer "HEAD" address).code = (t.answer "GET" address).code := by
  rw [answer, answer]
  cases Route.ofAddress? address <;> rfl

theorem probeCode_eq_200_iff {passed : Bool} : probeCode passed = 200 ↔ passed = true := by
  cases passed <;> decide

theorem probeCode_eq_503_iff {passed : Bool} : probeCode passed = 503 ↔ passed = false := by
  cases passed <;> decide

/-- The probe of health fails if some part is unhealthy. -/
theorem code_health_iff (h : Route.Names address "/healthz") :
    ((t.answer "GET" address).code = 503 ↔ t.health.Down) ∧
    ((t.answer "GET" address).code = 200 ↔ ¬ t.health.Down) := by
  have hcode : (t.answer "GET" address).code = probeCode t.health.status.isOperational := by
    rw [answer_of_names (r := .health) h]
    rfl
  rw [hcode, probeCode_eq_503_iff, probeCode_eq_200_iff, ← Registry.status_eq_unhealthy_iff,
    ← Status.isOperational_eq_false_iff, Bool.not_eq_false]
  exact ⟨Iff.rfl, Iff.rfl⟩

/-- The probe of readiness passes if the controller runs, and no part is unhealthy. -/
theorem code_readiness_iff (h : Route.Names address "/readyz") :
    (t.answer "GET" address).code = 200 ↔ t.health.running = true ∧ ¬ t.health.Down := by
  rw [← Registry.ready_iff, ← probeCode_eq_200_iff, answer_of_names (r := .readiness) h]
  rfl

theorem readiness_refused (h : Route.Names address "/readyz")
    (hcode : (t.answer "GET" address).code ≠ 200) :
    (t.answer "GET" address).code = 503 ∧ ∃ reason, t.health.Refusal reason ∧
      (t.answer "GET" address).body =
        .json (.obj [("ready", .bool false), ("reason", .str reason)]) := by
  have hanswer : t.answer "GET" address = t.read .readiness :=
    answer_of_names (r := .readiness) h
  have hready : t.health.readiness.ready = false := by
    rw [ne_eq, code_readiness_iff h, ← Registry.ready_iff] at hcode
    exact Bool.not_eq_true _ ▸ hcode
  obtain ⟨reason, hreason, heq⟩ := Registry.exists_refusal hready
  rw [hanswer, read, heq]
  exact ⟨rfl, reason, hreason, rfl⟩

/-- **The probes answer for the registry.** Whatever is told and asked, in any order: requests
change nothing, and the controller runs if that is what was last told of it. The probe of health
fails exactly if some part is unhealthy. The probe of readiness passes exactly if the controller
runs and no part is unhealthy, so that the other probe passes, too; else it fails and says why. The
head of an answer can be had alone; other methods are not allowed on the three paths, and there are
no other paths. -/
theorem probes_answer_for_registry (node : String) (as : List Arrival) :
    let t := (fresh node).after as
    let told := as.filterMap Arrival.note?
    t = (fresh node).hear told ∧
    (t.health.running = true ↔
      (told.filterMap fun n => n.2.running?).getLast? = some true) ∧
    (∀ a, Route.Names a "/healthz" →
      ((t.answer "GET" a).code = 503 ↔ ∃ part, t.health.statusOf? part = some .unhealthy) ∧
      ((t.answer "GET" a).code = 200 ↔ ¬ ∃ part, t.health.statusOf? part = some .unhealthy)) ∧
    (∀ a, Route.Names a "/readyz" →
      ((t.answer "GET" a).code = 200 ↔
        t.health.running = true ∧ ¬ ∃ part, t.health.statusOf? part = some .unhealthy) ∧
      ((t.answer "GET" a).code ≠ 200 →
        (t.answer "GET" a).code = 503 ∧ ∃ reason, t.health.Refusal reason ∧
          (t.answer "GET" a).body =
            .json (.obj [("ready", .bool false), ("reason", .str reason)]))) ∧
    (∀ a b, Route.Names a "/readyz" → Route.Names b "/healthz" →
      (t.answer "GET" a).code = 200 → (t.answer "GET" b).code = 200) ∧
    (∀ a, (t.answer "HEAD" a).code = (t.answer "GET" a).code) ∧
    (∀ method a path, method ≠ "GET" → method ≠ "HEAD" → Route.Names a path →
      path ∈ ["/healthz", "/readyz", "/metrics"] → (t.answer method a).code = 405) ∧
    (∀ method a path, Route.Names a path → path ∉ ["/healthz", "/readyz", "/metrics"] →
      (t.answer method a).code = 404) := by
  intro t told
  have ht : t = (fresh node).hear told := after_eq_hear
  refine ⟨ht, ?_, fun a => code_health_iff, fun a ha => ⟨code_readiness_iff ha,
    readiness_refused ha⟩, fun a b ha hb hready => ?_, code_head t, ?_, ?_⟩
  · rw [ht, running_hear]
    cases (told.filterMap fun n => n.2.running?).getLast? with
    | none => exact iff_of_false Bool.false_ne_true nofun
    | some b => exact ⟨congrArg some, Option.some.inj⟩
  · exact (code_health_iff hb).2.mpr ((code_readiness_iff ha).mp hready).2
  · intro method a path hget hhead ha hpath
    obtain ⟨r, rfl⟩ := Route.mem_paths_iff.mp hpath
    rw [answer_of_names ha, if_neg hget, if_neg hhead]
  · intro method a path ha hpath
    exact code_answer_of_stray fun r hr => hpath (Route.mem_paths_iff.mpr ⟨r, hr.unique ha⟩)

/-- The controller runs; a probe comes, and then the loop says that it is stuck. -/
def stuckLoop : List Arrival :=
  [.note (0, .running true), .note (1, .report dispatcherPart .healthy),
    .request "GET" "/readyz", .note (2, .report loopPart (.unhealthy "stuck"))]

theorem names_readyz_with_query : Route.Names "/readyz?verbose" "/readyz" :=
  ⟨[], "?verbose".toList, rfl, .inl rfl, rfl, by simp [Route.isPathChar],
    by simp [Route.isPathChar]⟩

/-- Both probes fail, and the probe of readiness names the loop. -/
theorem stuck_loop_fails_probes :
    ((fresh "n").after stuckLoop).health.statusOf? loopPart = some .unhealthy ∧
    (((fresh "n").after stuckLoop).answer "GET" "http://node:8080/healthz").code = 503 ∧
    (((fresh "n").after stuckLoop).answer "HEAD" "/readyz?verbose").code = 503 ∧
    (((fresh "n").after stuckLoop).answer "POST" "/readyz?verbose").code = 405 ∧
    (((fresh "n").after stuckLoop).answer "GET" "/").code = 404 ∧
    ∃ names : List String, (∀ part, part ∈ names ↔
        ((fresh "n").after stuckLoop).health.statusOf? part = some .unhealthy) ∧
      (((fresh "n").after stuckLoop).answer "GET" "/readyz?verbose").body =
        .json (.obj [("ready", .bool false),
          ("reason", .str ("Unhealthy components: " ++ ", ".intercalate names))]) := by
  obtain ⟨-, hrunning, hhealth, hready, -, hhead, hmethod, hstray⟩ :=
    probes_answer_for_registry "n" stuckLoop
  have hdown : ((fresh "n").after stuckLoop).health.statusOf? loopPart = some .unhealthy := rfl
  have hruns := hrunning.mpr rfl
  have horigin : Route.IsOrigin "http://node:8080".toList :=
    .inr ⟨"http".toList, "node:8080".toList, rfl, List.all_eq_true.mp rfl,
      by simp [Route.endsPart]⟩
  have hhealthz : Route.Names "http://node:8080/healthz" "/healthz" :=
    ⟨"http://node:8080".toList, [], rfl, horigin, rfl, by simp [Route.isPathChar], by simp⟩
  have hroot : Route.Names "/" "/" :=
    ⟨[], [], rfl, .inl rfl, rfl, by simp [Route.isPathChar], by simp⟩
  obtain ⟨hcode, hrefused⟩ := hready _ names_readyz_with_query
  obtain ⟨h503, reason, hreason, hbody⟩ := hrefused fun h => (hcode.mp h).2 ⟨loopPart, hdown⟩
  refine ⟨hdown, (hhealth _ hhealthz).1.mpr ⟨loopPart, hdown⟩, (hhead _).trans h503,
    hmethod _ _ _ (by decide) (by decide) names_readyz_with_query (by decide),
    hstray _ _ _ hroot (by decide), ?_⟩
  cases hreason with
  | notStarted h => exact absurd (hruns.symm.trans h) nofun
  | down h names nodup mem => exact ⟨names, mem, hbody⟩

end Telemetry

end NodePressure
