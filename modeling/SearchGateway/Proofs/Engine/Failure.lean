import SearchGateway.Engine.Client
import SearchGateway.Proofs.Outcome

/-!
# What failures the engine reports

An operation of the engine should come to a result or to a failure with a message (`Reported`).  An
answer can stand in the way of that: the failure it reports cannot be read, or it is nested too deep
to be read at all.  What an answer must look like so that neither is the case is said here
(`isAnnounced_ofAnswer`, `reported_outcome`).
-/

set_option autoImplicit false

namespace SearchGateway

variable {α β ε : Type}

/-! ## Outcomes -/

/-- There is a result, or a failure with a message. -/
def Reported (outcome : Except Fault α) : Prop :=
  ∀ fault, outcome = .error fault → fault.isAnnounced = true

@[simp]
theorem reported_ok (a : α) : Reported (.ok a) := fun _ h => nomatch h

@[simp]
theorem reported_error {fault : Fault} :
    Reported (.error fault : Except Fault α) ↔ fault.isAnnounced = true := by
  simp [Reported]

theorem reported_bind {first : Except Fault α} {next : α → Except Fault β} :
    Reported (first >>= next) ↔
      Reported first ∧ ∀ a, first = .ok a → Reported (next a) := by
  cases first <;> simp [bind, Except.bind]

@[simp]
theorem isAnnounced_announced (cause : Cause) (message : Json) :
    (Fault.announced cause message).isAnnounced = true := rfl

@[simp]
theorem isAnnounced_defect (defect : Defect) : (Fault.defect defect).isAnnounced = false := rfl

/-- What is read of several values fails with the first defect. -/
theorem mapM_liftM {f : α → Except Defect β} {as : List α} :
    (as.mapM fun a => (liftM (f a) : Except Fault β)) = (as.mapM f).mapError Fault.defect := by
  induction as with
  | nil => rfl
  | cons a as ih =>
    rw [List.mapM_cons, List.mapM_cons, ih]
    cases f a <;> cases as.mapM f <;> rfl

/-- What fails with a defect only is reported exactly if it does not fail. -/
theorem reported_mapError {outcome : Except Defect α} :
    Reported (outcome.mapError Fault.defect) ↔ outcome.isOk = true := by
  cases outcome <;> simp [Except.mapError]

/-! ## Failures -/

namespace Failure

/-- The value can be looked through for root causes. -/
def IsListable : Json → Prop
  | .arr _ => True
  | .str _ => True
  | .obj _ => True
  | value => value.isSomething = false

/-- What is read of an error object has the shape that it is read for. -/
structure IsLegible (details : Json.Fields) : Prop where
  causes : ∀ value, details.get? "root_cause" = some value → IsListable value
  /-- The reasons of root causes are texts if they count as something. -/
  reasons : ∀ causes, details.get? "root_cause" = some (.arr causes) → ∀ cause,
    .obj cause ∈ causes → ∀ reason, Json.Fields.get? cause "reason" = some reason →
      reason.isSomething = true → ∃ text, reason = .str text
  /-- The type can be looked up. -/
  type : (∀ items, details.get? "type" ≠ some (.arr items)) ∧
    ∀ fields, details.get? "type" ≠ some (.obj fields)

variable {details : Json.Fields}

theorem isOk_rootCauses : (rootCauses details).isOk = true ↔
    ∀ value, details.get? "root_cause" = some value → IsListable value := by
  unfold rootCauses
  cases hvalue : details.get? "root_cause" with
  | none => simp [Json.isSomething]
  | some value => cases value <;> simp [IsListable, apply_ite Except.isOk]

/-- The root causes that are objects are those among the root causes. -/
theorem mem_of_rootCauses {causes : List Json.Fields} (h : rootCauses details = .ok causes)
    (cause : Json.Fields) : cause ∈ causes ↔
      ∃ values, details.get? "root_cause" = some (.arr values) ∧ .obj cause ∈ values := by
  unfold rootCauses at h
  cases hvalue : details.get? "root_cause" with
  | none => simp_all [Json.isSomething]
  | some value =>
    rw [hvalue] at h
    cases value with
    | arr values =>
      obtain rfl := Except.ok.inj h
      rw [List.mem_filterMap]
      constructor
      · rintro ⟨value, hmem, hfields⟩
        cases value <;> cases hfields
        exact ⟨values, rfl, hmem⟩
      · rintro ⟨_, ⟨⟩, hmem⟩
        exact ⟨_, hmem, rfl⟩
    | str _ | obj _ =>
      obtain rfl := Except.ok.inj h
      simp
    | null | bool _ | int _ | num _ =>
      simp only [Option.getD_some] at h
      split_ifs at h
      obtain rfl := Except.ok.inj h
      simp

theorem isOk_textOfReason {reason : Json} :
    (textOfReason reason).isOk = true ↔ ∃ text, reason = .str text := by
  cases reason <;> simp [textOfReason]

theorem isOk_rootReasons : (rootReasons details).isOk = true ↔
    ∃ causes, rootCauses details = .ok causes ∧ ∀ cause ∈ causes, ∀ reason,
      cause.get? "reason" = some reason → reason.isSomething = true → ∃ text, reason = .str text := by
  unfold rootReasons
  rw [isOk_bind]
  refine exists_congr fun causes => and_congr_right fun _ => ?_
  rw [isOk_bind]
  simp only [pure, Except.pure, isOk_ok, and_true, ← isOk_iff, isOk_mapM, isOk_textOfReason,
    List.mem_filterMap, reason?, Option.filter_eq_some_iff]
  constructor
  · exact fun h cause hcause reason hreason hsome => h reason ⟨cause, hcause, hreason, hsome⟩
  · rintro h reason ⟨cause, hcause, hreason, hsome⟩
    exact h cause hcause reason hreason hsome

theorem isOk_message : (message details).isOk = (rootReasons details).isOk := by
  unfold message
  cases rootReasons details with
  | error defect => rfl
  | ok reasons => cases hempty : reasons.isEmpty <;> simp [bind, Except.bind, hempty] <;> rfl

theorem isOk_causeOfType : (causeOfType details).isOk = true ↔
    (∀ items, details.get? "type" ≠ some (.arr items)) ∧
      ∀ fields, details.get? "type" ≠ some (.obj fields) := by
  unfold causeOfType
  cases hvalue : details.get? "type" with
  | none => simp
  | some value => cases value <;> simp

/-- A failure can be read from an error object exactly if it is legible. -/
theorem isOk_ofDetails (status : Int) :
    (ofDetails details status).isOk = true ↔ IsLegible details := by
  have hofDetails : (ofDetails details status).isOk = true ↔
      (rootReasons details).isOk = true ∧ (causeOfType details).isOk = true := by
    rw [ofDetails, ← isOk_message]
    cases message details <;> cases causeOfType details <;>
      simp [bind, Except.bind, pure, Except.pure]
  rw [hofDetails, isOk_rootReasons, isOk_causeOfType]
  constructor
  · rintro ⟨⟨causes, hcauses, hreasons⟩, htype⟩
    refine ⟨isOk_rootCauses.mp (isOk_iff.mpr ⟨causes, hcauses⟩), ?_, htype⟩
    intro values hvalues cause hcause
    exact hreasons cause ((mem_of_rootCauses hcauses cause).mpr ⟨values, hvalues, hcause⟩)
  · rintro ⟨hcauses, hreasons, htype⟩
    obtain ⟨causes, hcauses⟩ := isOk_iff.mp (isOk_rootCauses.mpr hcauses)
    refine ⟨⟨causes, hcauses, fun cause hcause => ?_⟩, htype⟩
    obtain ⟨values, hvalues, hmem⟩ := (mem_of_rootCauses hcauses cause).mp hcause
    exact hreasons values hvalues cause hmem

theorem isAnnounced_of_ofDetails {status : Int} {fault : Fault}
    (h : ofDetails details status = .ok fault) : fault.isAnnounced = true := by
  rw [ofDetails] at h
  cases hmessage : message details with
  | error defect => simp [hmessage, bind, Except.bind] at h
  | ok text =>
    cases hcause : causeOfType details with
    | error defect => simp [hmessage, hcause, bind, Except.bind] at h
    | ok cause =>
      simp only [hmessage, hcause, bind, Except.bind, pure, Except.pure] at h
      rw [← Except.ok.inj h]
      rfl

/-- The body of an answer that reports a failure can be read, and so can an error object in it. -/
structure IsLegibleBody (body : String) : Prop where
  shallow : Json.parse Exchange.depth body ≠ .error .tooDeep
  error : ∀ fields details, Json.parse Exchange.depth body = .ok (.obj fields) →
    Json.Fields.get? fields "error" = some (.obj details) → IsLegible details

theorem isAnnounced_ofObject (fields : Json.Fields) (status : Int) (body : String) :
    (ofObject fields status body).isAnnounced = true ↔
      ∀ details, fields.get? "error" = some (.obj details) → IsLegible details := by
  unfold ofObject
  split
  case h_1 details hdetails =>
    rw [hdetails]
    simp only [Option.some.injEq, Json.obj.injEq, forall_eq']
    rw [← isOk_ofDetails status]
    cases hfault : ofDetails details status with
    | ok fault => simp [isAnnounced_of_ofDetails hfault]
    | error defect => simp
  case h_2 hother =>
    refine iff_of_true ?_ fun details hdetails => (hother details hdetails).elim
    split <;> rfl

/-- **The failure that an answer reports has a message exactly if its body is legible.** -/
theorem isAnnounced_ofAnswer (status : Int) (body : String) :
    (ofAnswer status body).isAnnounced = true ↔ IsLegibleBody body := by
  unfold ofAnswer
  split
  case h_1 fields hfields =>
    rw [isAnnounced_ofObject]
    constructor
    · intro h
      refine ⟨by simp [hfields], fun fields' details hparse => ?_⟩
      obtain rfl := Json.obj.inj (Except.ok.inj (hfields.symm.trans hparse))
      exact h details
    · exact fun h details => h.error fields details hfields
  case h_2 hdeep => exact iff_of_false (by simp) fun h => h.shallow hdeep
  case h_3 hobject hdeep =>
    exact iff_of_true rfl ⟨hdeep, fun fields _ hparse => (hobject fields hparse).elim⟩

end Failure

/-! ## Replies -/

namespace Reply

/-- What is read of the body of the reply can be read. -/
def IsLegible : Reply → Prop
  | .lost _ _ => True
  | .answer status body =>
    if 400 ≤ status ∧ status < 600 then Failure.IsLegibleBody body
    else Json.parse Exchange.depth body ≠ .error .tooDeep

/-- The reply reports no failure and carries the value; an empty body gives `null`. -/
def Carries (value : Json) : Reply → Prop
  | .lost _ _ => False
  | .answer status body => ¬(400 ≤ status ∧ status < 600) ∧
    if body.isEmpty then value = .null else Json.parse Exchange.depth body = .ok value

theorem reported_outcome (method path : String) (reply : Reply) :
    Reported (reply.outcome method path) ↔ reply.IsLegible := by
  cases reply with
  | lost loss text => cases loss <;> simp [outcome, Failure.ofLoss, IsLegible]
  | answer status body =>
    by_cases hstatus : 400 ≤ status ∧ status < 600
    · rw [outcome, IsLegible, if_pos hstatus, if_pos hstatus, reported_error,
        Failure.isAnnounced_ofAnswer]
    · rw [outcome, IsLegible, if_neg hstatus, if_neg hstatus]
      by_cases hempty : body.isEmpty
      · rw [if_pos hempty]
        have hbody : body = "" := by simpa using hempty
        have hparse : Json.parse Exchange.depth "" = .error .malformed := rfl
        rw [hbody, hparse]
        simp
      · rw [if_neg hempty]
        cases hparse : Json.parse Exchange.depth body with
        | ok value => simp
        | error flaw => cases flaw <;> simp [Fault.malformed]

theorem outcome_eq_ok {method path : String} {reply : Reply} {value : Json} :
    reply.outcome method path = .ok value ↔ reply.Carries value := by
  cases reply with
  | lost loss text => simp [outcome, Carries]
  | answer status body =>
    by_cases hstatus : 400 ≤ status ∧ status < 600
    · simp [outcome, Carries, hstatus]
    · simp only [outcome, Carries, hstatus, if_false, not_false_eq_true, true_and]
      by_cases hempty : body.isEmpty
      · simp [hempty, eq_comm]
      · simp only [hempty, if_false, Bool.false_eq_true]
        cases hparse : Json.parse Exchange.depth body with
        | ok found => simp
        | error flaw => cases flaw <;> simp

end Reply

end SearchGateway
