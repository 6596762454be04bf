import AlertEngine.Event.Id

/-! # The grammar of event ids

The reader takes every part of an event id off the front in one go. It loses nothing by that: a part
is a run of characters of its class, and what closes a part is never in its class, so that there is
only one way to take an id apart.
-/

namespace AlertEngine

namespace EventId

/-- A run of characters of a class, at least one. -/
structure IsRun (isMember : Char → Bool) (run : List Char) : Prop where
  ne_nil : run ≠ []
  all : ∀ c ∈ run, isMember c = true

/-- A text that does not go on with a character of a class. -/
def Ends (isMember : Char → Bool) (rest : List Char) : Prop :=
  ∀ c ∈ rest.head?, isMember c = false

section Runs

variable {isMember : Char → Bool} {close : Char} {text run rest : List Char}

theorem ends_cons (outside : isMember close = false) (rest : List Char) :
    Ends isMember (close :: rest) := by
  intro c here
  cases here
  exact outside

theorem IsRun.span (isRun : IsRun isMember run) (rest : List Char) :
    (run ++ rest).takeWhile isMember = run ++ rest.takeWhile isMember ∧
      (run ++ rest).dropWhile isMember = rest.dropWhile isMember :=
  ⟨List.takeWhile_append_of_pos isRun.all, List.dropWhile_append_of_pos isRun.all⟩

theorem Ends.span (ends : Ends isMember rest) :
    rest.takeWhile isMember = [] ∧ rest.dropWhile isMember = rest := by
  cases rest with
  | nil => exact ⟨rfl, rfl⟩
  | cons c rest =>
      have outside : isMember c = false := ends c rfl
      simp [outside]

theorem ends_dropWhile (isMember : Char → Bool) (text : List Char) :
    Ends isMember (text.dropWhile isMember) := by
  intro c here
  have outside := List.head?_dropWhile_not isMember text
  rw [here] at outside
  simpa using outside

theorem run?_append (isRun : IsRun isMember run) (rest : List Char) :
    run? isMember (run ++ rest) =
      some (run ++ rest.takeWhile isMember, rest.dropWhile isMember) := by
  obtain ⟨taken, left⟩ := isRun.span rest
  rw [run?, taken, left]
  cases run with
  | nil => exact absurd rfl isRun.ne_nil
  | cons c run => rfl

theorem run?_eq_some_iff :
    run? isMember text = some (run, rest) ↔
      text = run ++ rest ∧ IsRun isMember run ∧ Ends isMember rest := by
  constructor
  · intro taken
    unfold run? at taken
    split at taken
    · cases taken
    · next nonempty =>
      cases taken
      refine ⟨List.takeWhile_append_dropWhile.symm, ⟨nonempty, ?_⟩, ends_dropWhile _ _⟩
      exact fun c here => List.all_eq_true.1 List.all_takeWhile c here
  · rintro ⟨rfl, isRun, ends⟩
    rw [run?_append isRun, ends.span.1, ends.span.2, List.append_nil]

/-- A run that is closed by a character outside its class is all that stands in front of it. -/
theorem closed?_eq_some_iff (outside : isMember close = false) :
    closed? isMember close text = some (run, rest) ↔
      text = run ++ close :: rest ∧ IsRun isMember run := by
  constructor
  · intro closed
    unfold closed? at closed
    split at closed
    · next taken =>
      split at closed
      · next same =>
        cases closed
        obtain ⟨rfl, isRun, -⟩ := run?_eq_some_iff.1 taken
        exact ⟨by rw [same], isRun⟩
      · cases closed
    · cases closed
  · rintro ⟨rfl, isRun⟩
    have taken := run?_eq_some_iff.2 ⟨rfl, isRun, ends_cons outside rest⟩
    rw [closed?, taken]
    exact if_pos rfl

theorem closed_unique {run' rest' : List Char} (outside : isMember close = false)
    (isRun : IsRun isMember run) (isRun' : IsRun isMember run')
    (same : run ++ close :: rest = run' ++ close :: rest') : run = run' ∧ rest = rest' := by
  have taken : closed? isMember close (run ++ close :: rest) = some (run, rest) :=
    (closed?_eq_some_iff outside).2 ⟨rfl, isRun⟩
  have taken' : closed? isMember close (run ++ close :: rest) = some (run', rest') :=
    (closed?_eq_some_iff outside).2 ⟨same, isRun'⟩
  simpa using taken.symm.trans taken'

theorem run_unique {run' rest' : List Char} (isRun : IsRun isMember run)
    (isRun' : IsRun isMember run') (ends : Ends isMember rest) (ends' : Ends isMember rest')
    (same : run ++ rest = run' ++ rest') : run = run' ∧ rest = rest' := by
  have taken : run? isMember (run ++ rest) = some (run, rest) :=
    run?_eq_some_iff.2 ⟨rfl, isRun, ends⟩
  have taken' : run? isMember (run ++ rest) = some (run', rest') :=
    run?_eq_some_iff.2 ⟨same, isRun', ends'⟩
  simpa using taken.symm.trans taken'

theorem labelled?_eq_some_iff (outside : isMember close = false) :
    labelled? isMember close text = some (run, rest) ↔
      ∃ label, text = label ++ '=' :: (run ++ close :: rest) ∧ IsRun isLabelChar label ∧
        IsRun isMember run := by
  have unlabelled : isLabelChar '=' = false := by decide
  simp only [labelled?, Option.bind_eq_some_iff, Prod.exists, closed?_eq_some_iff outside,
    closed?_eq_some_iff unlabelled]
  constructor
  · rintro ⟨label, _, ⟨rfl, isLabel⟩, rfl, isRun⟩
    exact ⟨label, rfl, isLabel, isRun⟩
  · rintro ⟨label, rfl, isLabel, isRun⟩
    exact ⟨label, _, ⟨rfl, isLabel⟩, rfl, isRun⟩

end Runs

/-- The labels of the monitor, the zone and the resource. -/
structure Labels where
  monitor : List Char
  zone : List Char
  resource : List Char
  deriving Repr, DecidableEq

/-- An id as it is written, in front of a rest. -/
def written (id : EventId) (labels : Labels) (rest : List Char) : List Char :=
  id.tenant ++ '-' :: (id.measurement ++ '-' :: (id.task ++ ':' ::
    (labels.monitor ++ '=' :: (id.monitor ++ ',' :: (labels.zone ++ '=' :: (id.zone ++ ',' ::
      (labels.resource ++ '=' :: (id.resource ++ rest))))))))

/-- Every part is a run of characters of its class. -/
structure WellFormed (id : EventId) (labels : Labels) : Prop where
  tenant : IsRun isTenantChar id.tenant
  measurement : IsRun isLetter id.measurement
  task : IsRun isIdChar id.task
  monitorLabel : IsRun isLabelChar labels.monitor
  monitor : IsRun isIdChar id.monitor
  zoneLabel : IsRun isLabelChar labels.zone
  zone : IsRun isIdChar id.zone
  resourceLabel : IsRun isLabelChar labels.resource
  resource : IsRun isResourceChar id.resource

/-- A text taken apart: an id, and a rest that does not go on with the resource. -/
structure Splits (text : List Char) (id : EventId) (labels : Labels) (rest : List Char) : Prop where
  eq_written : text = id.written labels rest
  wellFormed : id.WellFormed labels
  ends : Ends isResourceChar rest

/-! ### What closes a part -/

theorem hyphen_not_tenant : isTenantChar '-' = false := by decide

theorem hyphen_not_letter : isLetter '-' = false := by decide

theorem colon_not_id : isIdChar ':' = false := by decide

theorem comma_not_id : isIdChar ',' = false := by decide

theorem equals_not_label : isLabelChar '=' = false := by decide

theorem ofChars?_eq_some_iff {text : List Char} {id : EventId} :
    ofChars? text = some id ↔ ∃ labels rest, Splits text id labels rest := by
  simp only [ofChars?, Option.bind_eq_bind, Option.bind_eq_some_iff, Prod.exists,
    closed?_eq_some_iff hyphen_not_tenant, closed?_eq_some_iff hyphen_not_letter,
    closed?_eq_some_iff colon_not_id, labelled?_eq_some_iff comma_not_id,
    closed?_eq_some_iff equals_not_label, run?_eq_some_iff, Option.pure_def, Option.some.injEq]
  constructor
  · rintro ⟨tenant, _, ⟨rfl, isTenant⟩, measurement, _, ⟨rfl, isMeasurement⟩, task, _,
      ⟨rfl, isTask⟩, monitor, _, ⟨monitorLabel, rfl, isMonitorLabel, isMonitor⟩, zone, _,
      ⟨zoneLabel, rfl, isZoneLabel, isZone⟩, resourceLabel, _, ⟨rfl, isResourceLabel⟩, resource,
      rest, ⟨rfl, isResource, ends⟩, rfl⟩
    exact ⟨⟨monitorLabel, zoneLabel, resourceLabel⟩, rest, rfl,
      ⟨isTenant, isMeasurement, isTask, isMonitorLabel, isMonitor, isZoneLabel, isZone,
        isResourceLabel, isResource⟩, ends⟩
  · rintro ⟨labels, rest, rfl, wellFormed, ends⟩
    exact ⟨_, _, ⟨rfl, wellFormed.tenant⟩, _, _, ⟨rfl, wellFormed.measurement⟩, _, _,
      ⟨rfl, wellFormed.task⟩, _, _, ⟨_, rfl, wellFormed.monitorLabel, wellFormed.monitor⟩, _, _,
      ⟨_, rfl, wellFormed.zoneLabel, wellFormed.zone⟩, _, _, ⟨rfl, wellFormed.resourceLabel⟩, _, _,
      ⟨rfl, wellFormed.resource, ends⟩, rfl⟩

theorem Splits.unique {text rest rest' : List Char} {id id' : EventId} {labels labels' : Labels}
    (splits : Splits text id labels rest) (splits' : Splits text id' labels' rest') :
    id = id' ∧ labels = labels' ∧ rest = rest' := by
  obtain ⟨tenant, measurement, task, monitor, zone, resource⟩ := id
  obtain ⟨monitorLabel, zoneLabel, resourceLabel⟩ := labels
  obtain ⟨rfl, whole, ends⟩ := splits
  obtain ⟨same, whole', ends'⟩ := splits'
  obtain ⟨rfl, behindTenant⟩ := closed_unique hyphen_not_tenant whole.tenant whole'.tenant same
  obtain ⟨rfl, behindMeasurement⟩ :=
    closed_unique hyphen_not_letter whole.measurement whole'.measurement behindTenant
  obtain ⟨rfl, behindTask⟩ := closed_unique colon_not_id whole.task whole'.task behindMeasurement
  obtain ⟨rfl, labelled⟩ :=
    closed_unique equals_not_label whole.monitorLabel whole'.monitorLabel behindTask
  obtain ⟨rfl, behindMonitor⟩ := closed_unique comma_not_id whole.monitor whole'.monitor labelled
  obtain ⟨rfl, labelledZone⟩ :=
    closed_unique equals_not_label whole.zoneLabel whole'.zoneLabel behindMonitor
  obtain ⟨rfl, behindZone⟩ := closed_unique comma_not_id whole.zone whole'.zone labelledZone
  obtain ⟨rfl, labelledResource⟩ :=
    closed_unique equals_not_label whole.resourceLabel whole'.resourceLabel behindZone
  obtain ⟨rfl, rfl⟩ := run_unique whole.resource whole'.resource ends ends' labelledResource
  exact ⟨rfl, rfl, rfl⟩

/-- Whatever stands behind an id, its resource takes as much of it as it can. -/
theorem splits_written {id : EventId} {labels : Labels} (wellFormed : id.WellFormed labels)
    (rest : List Char) :
    Splits (id.written labels rest)
      { id with resource := id.resource ++ rest.takeWhile isResourceChar } labels
      (rest.dropWhile isResourceChar) := by
  refine ⟨?_, { wellFormed with resource := ⟨?_, ?_⟩ }, ends_dropWhile _ _⟩
  · simp only [written, List.append_assoc, List.takeWhile_append_dropWhile]
  · exact List.append_ne_nil_of_left_ne_nil wellFormed.resource.ne_nil _
  · intro c here
    cases List.mem_append.1 here with
    | inl inId => exact wellFormed.resource.all c inId
    | inr behind => exact List.all_eq_true.1 List.all_takeWhile c behind

end EventId

namespace EventOrigin

open EventId

theorem ofText_eq_ok_iff {id : String} {origin : EventOrigin} :
    ofText id = .ok origin ↔
      ∃ parts, EventId.ofChars? id.toList = some parts ∧ ofId parts = origin := by
  rw [ofText]
  cases EventId.ofChars? id.toList with
  | none => simp
  | some parts => simp

theorem ofText_eq_error_iff {id : String} {e : MalformedId} :
    ofText id = .error e ↔ EventId.ofChars? id.toList = none ∧ e = ⟨id⟩ := by
  rw [ofText]
  cases EventId.ofChars? id.toList with
  | none => simp [eq_comm]
  | some parts => simp

theorem zone_ofId (parts : EventId) :
    (ofId parts).zone =
      if parts.zone = ['n', 'u', 'l', 'l'] then none else some (String.ofList parts.zone) := by
  have missing : String.ofList parts.zone = absent ↔ parts.zone = ['n', 'u', 'l', 'l'] :=
    String.ofList_inj
  simp only [ofId, missing]

theorem ofId_eq_iff {parts : EventId} {origin : EventOrigin} :
    ofId parts = origin ↔
      origin.tenant = String.ofList (parts.tenant.map fun c => if c = '_' then ':' else c) ∧
      origin.measurement = String.ofList parts.measurement ∧
      origin.task = Uuid.ofChars? parts.task ∧
      origin.monitor = Uuid.ofChars? parts.monitor ∧
      origin.zone =
        (if parts.zone = ['n', 'u', 'l', 'l'] then none else some (String.ofList parts.zone)) ∧
      origin.resource = String.ofList parts.resource := by
  constructor
  · rintro rfl
    exact ⟨rfl, rfl, rfl, rfl, zone_ofId parts, rfl⟩
  · rintro ⟨tenant, measurement, task, monitor, zone, resource⟩
    rw [← zone_ofId] at zone
    cases origin
    subst tenant measurement task monitor zone resource
    rfl

/-- The law of event ids. An id names an origin exactly when it can be taken apart, which is
    possible in at most one way, and the origin is what its parts say; every other id is malformed
    as a whole. So an id put together of any parts gives them back, and what stands behind it only
    counts where the resource can go on. -/
theorem origin_of_written (id : String) :
    (∀ origin, ofText id = .ok origin ↔
      ∃ parts labels rest, Splits id.toList parts labels rest ∧
        origin.tenant = String.ofList (parts.tenant.map fun c => if c = '_' then ':' else c) ∧
        origin.measurement = String.ofList parts.measurement ∧
        origin.task = Uuid.ofChars? parts.task ∧
        origin.monitor = Uuid.ofChars? parts.monitor ∧
        origin.zone =
          (if parts.zone = ['n', 'u', 'l', 'l'] then none else some (String.ofList parts.zone)) ∧
        origin.resource = String.ofList parts.resource) ∧
    (∀ e, ofText id = .error e ↔
      (¬∃ parts labels rest, Splits id.toList parts labels rest) ∧ e = ⟨id⟩) ∧
    (∀ parts labels rest parts' labels' rest', Splits id.toList parts labels rest →
      Splits id.toList parts' labels' rest' → parts = parts' ∧ labels = labels' ∧ rest = rest') ∧
    (∀ parts labels, WellFormed parts labels →
      ofText (String.ofList (parts.written labels [])) = .ok (ofId parts)) ∧
    ∀ parts labels rest, WellFormed parts labels →
      ofText (String.ofList (parts.written labels rest)) =
        .ok (ofId { parts with resource := parts.resource ++ rest.takeWhile isResourceChar }) := by
  have assembled : ∀ parts labels rest, WellFormed parts labels →
      ofText (String.ofList (parts.written labels rest)) =
        .ok (ofId { parts with resource := parts.resource ++ rest.takeWhile isResourceChar }) := by
    intro parts labels rest wellFormed
    have splits := splits_written wellFormed rest
    rw [ofText_eq_ok_iff, String.toList_ofList]
    exact ⟨_, ofChars?_eq_some_iff.2 ⟨_, _, splits⟩, rfl⟩
  refine ⟨fun origin => ?_, fun e => ?_, ?_, ?_, assembled⟩
  · rw [ofText_eq_ok_iff]
    simp only [ofChars?_eq_some_iff, ofId_eq_iff]
    constructor
    · rintro ⟨parts, ⟨labels, rest, splits⟩, fields⟩
      exact ⟨parts, labels, rest, splits, fields⟩
    · rintro ⟨parts, labels, rest, splits, fields⟩
      exact ⟨parts, ⟨labels, rest, splits⟩, fields⟩
  · rw [ofText_eq_error_iff, Option.eq_none_iff_forall_ne_some]
    simp only [ne_eq, ofChars?_eq_some_iff, not_exists]
  · intro parts labels rest parts' labels' rest' splits splits'
    exact splits.unique splits'
  · intro parts labels wellFormed
    have whole := assembled parts labels [] wellFormed
    rwa [List.takeWhile_nil, List.append_nil] at whole

/-- The text behind a resource is left alone from the first character that no resource has. -/
example : (ofText "t_1-cpu-a:m=b-2,z=null,r=x:0 y").toOption =
    some ⟨"t:1", "cpu", none, none, none, "x:0"⟩ := by
  decide +kernel

end EventOrigin

end AlertEngine
