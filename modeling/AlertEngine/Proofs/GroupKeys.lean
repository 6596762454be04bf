import AlertEngine.Event.Basic
import AlertEngine.Proofs.WrittenTexts

/-! # Keys of alerts

The key of an alert joins the tenant, the resource, the monitor and the task with colons. No colon
stands in what is written for an identifier, so the key tells the monitor and the task. A tenant and
a resource can have colons of their own, and the key does not tell where the one ends and the other
begins.
-/

namespace AlertEngine

section Joined

variable {front back front' back' : String}

theorem toList_joined (front back : String) :
    (front ++ ":" ++ back).toList = front.toList ++ ':' :: back.toList := by
  simp

theorem joined_of_between {between : List Char}
    (longer : front'.toList = front.toList ++ between)
    (split : ':' :: back.toList = between ++ ':' :: back'.toList) :
    (front = front' ∧ back = back') ∨
      ∃ moved, front' = front ++ ":" ++ moved ∧ back = moved ++ ":" ++ back' := by
  cases between with
  | nil =>
      left
      rw [List.append_nil] at longer
      exact ⟨String.toList_inj.1 longer.symm, String.toList_inj.1 (List.cons.inj split).2⟩
  | cons c between =>
      right
      obtain ⟨rfl, behind⟩ := List.cons.inj split
      refine ⟨String.ofList between, String.toList_inj.1 ?_, String.toList_inj.1 ?_⟩
      · rw [toList_joined, String.toList_ofList, longer]
      · rw [toList_joined, String.toList_ofList]
        exact behind

/-- Joined texts are the same if their parts are, or if another one of their colons joins them. -/
theorem joined_eq_iff :
    front ++ ":" ++ back = front' ++ ":" ++ back' ↔
      (front = front' ∧ back = back') ∨
        (∃ moved, front' = front ++ ":" ++ moved ∧ back = moved ++ ":" ++ back') ∨
        ∃ moved, front = front' ++ ":" ++ moved ∧ back' = moved ++ ":" ++ back := by
  constructor
  · intro same
    rw [← String.toList_inj, toList_joined, toList_joined] at same
    rcases List.append_eq_append_iff.1 same with
      ⟨between, longer, split⟩ | ⟨between, longer, split⟩
    · obtain parts | moved := joined_of_between longer split
      · exact .inl parts
      · exact .inr (.inl moved)
    · obtain ⟨rfl, rfl⟩ | moved := joined_of_between longer split
      · exact .inl ⟨rfl, rfl⟩
      · exact .inr (.inr moved)
  · rintro (⟨rfl, rfl⟩ | ⟨moved, rfl, rfl⟩ | ⟨moved, rfl, rfl⟩)
    · rfl
    · simp only [String.append_assoc]
    · simp only [String.append_assoc]

theorem colon_mem_joined : ':' ∈ (front ++ ":" ++ back).toList := by
  rw [toList_joined]
  exact List.mem_append_right _ (.head _)

theorem joined_eq_iff_of_clear (clear : ':' ∉ back.toList) (clear' : ':' ∉ back'.toList) :
    front ++ ":" ++ back = front' ++ ":" ++ back' ↔ front = front' ∧ back = back' := by
  rw [joined_eq_iff, or_iff_left_iff_imp]
  rintro (⟨moved, -, rfl⟩ | ⟨moved, -, rfl⟩)
  · exact absurd colon_mem_joined clear
  · exact absurd colon_mem_joined clear'

theorem count_colon_joined :
    (front ++ ":" ++ back).toList.count ':' =
      front.toList.count ':' + back.toList.count ':' + 1 := by
  rw [toList_joined, List.count_append, List.count_cons_self, Nat.add_assoc]

end Joined

namespace Uuid

theorem digitChar_ne_colon (n : Fin 16) : Nat.digitChar n.val ≠ ':' := by
  revert n
  decide

theorem colon_not_mem_digitChars (id : Uuid) : ':' ∉ id.digitChars := by
  intro here
  obtain ⟨digit, -, same⟩ := List.mem_map.1 here
  exact digitChar_ne_colon digit same

theorem colon_not_mem_chars (id : Uuid) : ':' ∉ id.chars := by
  have group : ∀ start length, ':' ∉ (id.digitChars.drop start).take length := by
    intro start length here
    exact id.colon_not_mem_digitChars (List.mem_of_mem_drop (List.mem_of_mem_take here))
  change ':' ∉ (id.digitChars.drop 0).take 8 ++ '-' :: (id.digitChars.drop 8).take 4 ++
    '-' :: (id.digitChars.drop 12).take 4 ++ '-' :: (id.digitChars.drop 16).take 4 ++
    '-' :: (id.digitChars.drop 20).take 12
  simp only [List.mem_append, List.mem_cons, group, or_false, not_or]
  decide

end Uuid

namespace EventOrigin

theorem colon_not_mem_idText (id : Option Uuid) : ':' ∉ (idText id).toList := by
  cases id with
  | none => decide
  | some id =>
      change ':' ∉ id.text.toList
      rw [Uuid.text, String.toList_ofList]
      exact id.colon_not_mem_chars

theorem ofText?_idText (id : Option Uuid) : Uuid.ofText? (idText id) = id := by
  cases id with
  | none => decide
  | some id => exact Uuid.ofText?_text id

theorem idText_inj {id id' : Option Uuid} : idText id = idText id' ↔ id = id' := by
  constructor
  · intro same
    rw [← ofText?_idText id, same, ofText?_idText]
  · rintro rfl
    rfl

variable {origin origin' : EventOrigin}

theorem groupKey_eq_iff :
    origin.groupKey = origin'.groupKey ↔
      origin.monitor = origin'.monitor ∧ origin.task = origin'.task ∧
        origin.tenant ++ ":" ++ origin.resource = origin'.tenant ++ ":" ++ origin'.resource := by
  rw [groupKey, groupKey,
    joined_eq_iff_of_clear (colon_not_mem_idText _) (colon_not_mem_idText _),
    joined_eq_iff_of_clear (colon_not_mem_idText _) (colon_not_mem_idText _), idText_inj,
    idText_inj]
  constructor
  · rintro ⟨⟨target, monitor⟩, task⟩
    exact ⟨monitor, task, target⟩
  · rintro ⟨monitor, task, target⟩
    exact ⟨⟨target, monitor⟩, task⟩

/-- The other tenant goes on with what the resource begins with. -/
def Shifted (origin origin' : EventOrigin) : Prop :=
  ∃ moved, origin'.tenant = origin.tenant ++ ":" ++ moved ∧
    origin.resource = moved ++ ":" ++ origin'.resource

theorem Shifted.count_lt (shifted : Shifted origin origin') :
    origin.tenant.toList.count ':' < origin'.tenant.toList.count ':' := by
  obtain ⟨moved, tenant, -⟩ := shifted
  rw [tenant, count_colon_joined]
  omega

end EventOrigin

open EventOrigin

/-- The law of keys. Two events that name their origins have keys, and the keys are the same
    exactly if monitor and task are, and tenant and resource are too or are shifted. They cannot be
    shifted if both tenants have equally many colons. -/
theorem events_of_one_key {event event' : AlertEvent} {origin origin' : EventOrigin}
    (named : event.origin = .ok origin) (named' : event'.origin = .ok origin') :
    ∃ key key', event.groupKey = .ok key ∧ event'.groupKey = .ok key' ∧
      (key = key' ↔
        origin.monitor = origin'.monitor ∧ origin.task = origin'.task ∧
          ((origin.tenant = origin'.tenant ∧ origin.resource = origin'.resource) ∨
            Shifted origin origin' ∨ Shifted origin' origin)) ∧
      (key = key' →
        origin.tenant.toList.count ':' = origin'.tenant.toList.count ':' →
          origin.tenant = origin'.tenant ∧ origin.resource = origin'.resource ∧
            origin.monitor = origin'.monitor ∧ origin.task = origin'.task) := by
  have same_iff : origin.groupKey = origin'.groupKey ↔
      origin.monitor = origin'.monitor ∧ origin.task = origin'.task ∧
        ((origin.tenant = origin'.tenant ∧ origin.resource = origin'.resource) ∨
          Shifted origin origin' ∨ Shifted origin' origin) := by
    rw [groupKey_eq_iff, joined_eq_iff]
    rfl
  refine ⟨origin.groupKey, origin'.groupKey, ?_, ?_, same_iff, ?_⟩
  · rw [AlertEvent.groupKey, named]
    rfl
  · rw [AlertEvent.groupKey, named']
    rfl
  · intro same equally
    obtain ⟨monitor, task, ⟨tenant, resource⟩ | shifted | shifted⟩ := same_iff.1 same
    · exact ⟨tenant, resource, monitor, task⟩
    · have := shifted.count_lt
      omega
    · have := shifted.count_lt
      omega

/-- Events of two measurements and two zones that belong to one alert. -/
theorem events_of_one_key_two_zones :
    let event : String → AlertEvent :=
      fun id => ⟨id, 0, none, none, none, false, none, none, none⟩
    let origin : EventOrigin := ⟨"t:1", "cpu", none, none, none, "a:b"⟩
    let origin' : EventOrigin := ⟨"t:1", "mem", none, none, some "west", "a:b"⟩
    (event "t_1-cpu-x:m=2,z=null,r=a:b").origin = .ok origin ∧
      (event "t_1-mem-x:m=3,z=west,r=a:b").origin = .ok origin' ∧
      ∃ key, (event "t_1-cpu-x:m=2,z=null,r=a:b").groupKey = .ok key ∧
        (event "t_1-mem-x:m=3,z=west,r=a:b").groupKey = .ok key := by
  intro event origin origin'
  have named : (event "t_1-cpu-x:m=2,z=null,r=a:b").origin = .ok origin := by decide +kernel
  have named' : (event "t_1-mem-x:m=3,z=west,r=a:b").origin = .ok origin' := by decide +kernel
  obtain ⟨key, key', keyed, keyed', same_iff, -⟩ := events_of_one_key named named'
  obtain rfl : key = key' := same_iff.2 ⟨rfl, rfl, .inl ⟨rfl, rfl⟩⟩
  exact ⟨named, named', key, keyed, keyed'⟩

/-- What one event has at the end of its tenant, the other one has in front of its resource. -/
theorem one_key_of_two_tenants :
    let event : String → AlertEvent :=
      fun id => ⟨id, 0, none, none, none, false, none, none, none⟩
    let origin : EventOrigin := ⟨"a", "cpu", none, none, none, "b:c"⟩
    let origin' : EventOrigin := ⟨"a:b", "cpu", none, none, none, "c"⟩
    (event "a-cpu-x:m=1,z=null,r=b:c").origin = .ok origin ∧
      (event "a_b-cpu-x:m=1,z=null,r=c").origin = .ok origin' ∧
      (event "a-cpu-x:m=1,z=null,r=b:c").groupKey = .ok "a:b:c:null:null" ∧
      (event "a_b-cpu-x:m=1,z=null,r=c").groupKey = .ok "a:b:c:null:null" ∧
      origin.tenant ≠ origin'.tenant ∧ origin.resource ≠ origin'.resource := by
  decide +kernel

end AlertEngine
