/-
  SensorFusion.Proofs.RoundTrip — what is kept as a text is read back.

  A value goes to its text by way of a tree and comes back the same way. The text of a tree
  reads as the tree (`Json.ofText?_text`); what is left is that a tree reads as the value it
  was made from (`LawfulPersistent`), which is shown of a record from its fields.

  Reading back does not ask for acceptable settings. It does ask for no more kinds than a
  chain holds, and for one counter per class: settings with any order of kinds read as
  whatever that order makes (`ofJson?_treeOfOrder`), and any list of counters as far as
  its length is right (`countersOfJson?_array`).

  Proved (`kept_values_are_read_back`): settings, statistics, kinds, presets and alarm levels
  are read back from their texts, so that no two values have one text.
-/

import SensorFusion.Persistent
import SensorFusion.Proofs.JsonText

namespace SensorFusion

open Persistent (toJson ofJson? write read?)

namespace Json

/-! ## Fields -/

section Fields

variable {α β γ : Type}

theorem mapM_map_eq_some {f : α → β} {g : β → Option γ} {k : α → γ} {xs : List α}
    (h : ∀ x ∈ xs, g (f x) = some (k x)) : (xs.map f).mapM g = some (xs.map k) := by
  induction xs with
  | nil => rfl
  | cons x xs ih =>
    rw [List.map_cons, List.mapM_cons, h x (List.mem_cons_self ..), ih fun y hy => h y (List.mem_cons_of_mem _ hy)]
    rfl

theorem mapM_map_eq_self {f : α → β} {g : β → Option α} (h : ∀ a, g (f a) = some a) (xs : List α) :
    (xs.map f).mapM g = some xs := by
  rw [mapM_map_eq_some fun x _ => h x, List.map_id']

end Fields

variable {ms : List (String × Json)}

theorem filter_of_nodup (hms : (ms.map Prod.fst).Nodup) {m : String × Json} (hm : m ∈ ms) :
    ms.filter (fun x => x.1 = m.1) = [m] := by
  induction ms with
  | nil => cases hm
  | cons x ms ih =>
    obtain ⟨hx, hms⟩ := List.nodup_cons.mp hms
    rcases List.mem_cons.mp hm with rfl | hm
    · have hnone : ms.filter (fun x => x.1 = m.1) = [] := by
        refine List.filter_eq_nil_iff.mpr fun y hy hkey => hx ?_
        rw [← of_decide_eq_true hkey]
        exact List.mem_map_of_mem hy
      rw [List.filter_cons_of_pos (by simp), hnone]
    · have hne : x.1 ≠ m.1 := fun hkey => hx (hkey ▸ List.mem_map_of_mem hm)
      rw [List.filter_cons_of_neg (by simpa using hne), ih hms hm]

theorem member?_of_nodup (hms : (ms.map Prod.fst).Nodup) {m : String × Json} (hm : m ∈ ms) :
    member? (ms.map fun m => (some m.1, m.2)) m.1 = some m.2 := by
  have hkey : ((fun x : Option String × Json => decide (x.1 = some m.1)) ∘ fun x : String × Json => (some x.1, x.2)) =
      fun x => decide (x.1 = m.1) := by
    funext x
    simp
  rw [member?, List.filter_map, hkey, filter_of_nodup hms hm]
  rfl

/-- The fields of a record are found under their names. -/
theorem record?_ofMembers (hms : (ms.map Prod.fst).Nodup) :
    (ofMembers ms).record? (ms.map Prod.fst) = some (ms.map Prod.snd) := by
  have hall : (ms.map fun m => (some m.1, m.2)).all (fun m => m.1.isSome) = true := by simp
  rw [ofMembers, record?, if_pos hall]
  exact mapM_map_eq_some fun m hm => member?_of_nodup hms hm

theorem wellFormed_ofMembers (h : ∀ m ∈ ms, m.2.WellFormed) : (ofMembers ms).WellFormed := by
  refine .object fun m hm => ?_
  obtain ⟨x, hx, rfl⟩ := List.mem_map.mp hm
  exact h x hx

theorem wellFormed_map {α : Type} {f : α → Json} (h : ∀ a, (f a).WellFormed) (xs : List α) :
    (array (xs.map f)).WellFormed := by
  refine .array fun x hx => ?_
  obtain ⟨a, -, rfl⟩ := List.mem_map.mp hx
  exact h a

/-! ## Counters and names -/

theorem wellFormed_ofUInt32 (n : UInt32) : (ofUInt32 n).WellFormed := .number (Decimal.Numeral.wellFormed_ofNat _)

theorem uint32?_ofUInt32 (n : UInt32) : (ofUInt32 n).uint32? = some n := by
  have hsize : n.toNat ≤ 4294967295 := Nat.le_of_lt_succ n.toNat_lt
  simp [ofUInt32, uint32?, Decimal.Numeral.toUInt32?, Decimal.Numeral.ofNat, Decimal.Numeral.isWhole,
    Decimal.ofDigits_digits, hsize]

/-- One of several values is found under its name, if the names differ. -/
theorem choice?_ofString {α : Type} {name : α → String} {all : List α} (hname : (all.map name).Nodup) {a : α}
    (ha : a ∈ all) : choice? (all.map fun a => (name a, a)) (ofString (name a)) = some a := by
  rw [ofString, choice?]
  induction all with
  | nil => cases ha
  | cons b all ih =>
    obtain ⟨hb, hname⟩ := List.nodup_cons.mp hname
    rw [List.map_cons, List.lookup_cons]
    rcases List.mem_cons.mp ha with rfl | ha
    · simp
    · have hne : name a ≠ name b := fun h => hb (h ▸ List.mem_map_of_mem ha)
      rw [beq_false_of_ne hne]
      exact ih hname ha

end Json

/-! ## Trees -/

/-- The tree of a value reads as the value, and may be written. -/
class LawfulPersistent (α : Type) [Persistent α] : Prop where
  wellFormed_toJson : ∀ a : α, (toJson a).WellFormed
  ofJson?_toJson : ∀ a : α, ofJson? (toJson a) = some a

open LawfulPersistent

instance : LawfulPersistent FilterKind where
  wellFormed_toJson k := .string (some k.name)
  ofJson?_toJson k := Json.choice?_ofString (by decide) k.mem_all

instance : LawfulPersistent FusionPreset where
  wellFormed_toJson p := .string (some p.name)
  ofJson?_toJson p := Json.choice?_ofString (by decide) (by cases p <;> decide)

instance : LawfulPersistent AlarmLevel where
  wellFormed_toJson l := .string (some l.keptName)
  ofJson?_toJson l := Json.choice?_ofString (by decide) (by cases l <;> decide)

def EstimationSettings.treeOfOrder (timeout : UInt32) (kinds : List FilterKind) : Json :=
  .ofMembers [("timeout_ms", .ofUInt32 timeout), ("filter_order", .array (kinds.map toJson))]

/-- Settings are read with no more kinds than a chain holds. -/
theorem ofJson?_treeOfOrder (timeout : UInt32) (kinds : List FilterKind) :
    ofJson? (EstimationSettings.treeOfOrder timeout kinds) = EstimationSettings.ofOrder? timeout kinds := by
  have hfields : (EstimationSettings.treeOfOrder timeout kinds).record? ["timeout_ms", "filter_order"] =
      some [.ofUInt32 timeout, .array (kinds.map toJson)] := Json.record?_ofMembers (by simp)
  have hkinds : (kinds.map toJson).mapM ofJson? = some kinds := Json.mapM_map_eq_self ofJson?_toJson kinds
  simp only [ofJson?] at hkinds ⊢
  rw [hfields]
  simp only [Option.bind_eq_bind, Option.bind_some, Json.uint32?_ofUInt32, Json.array?, hkinds]

instance : LawfulPersistent EstimationSettings where
  wellFormed_toJson s := by
    refine Json.wellFormed_ofMembers ?_
    simp [Json.wellFormed_ofUInt32, Json.wellFormed_map wellFormed_toJson]
  ofJson?_toJson s := (ofJson?_treeOfOrder s.timeout s.filterOrder).trans (dif_pos s.length_le)

theorem countersOfJson?_array (n : Nat) (counters : List UInt32) :
    countersOfJson? n (.array (counters.map .ofUInt32)) =
      if h : counters.length = n then some ⟨counters.toArray, h⟩ else none := by
  simp [countersOfJson?, Json.array?, Json.mapM_map_eq_self Json.uint32?_ofUInt32]

instance : LawfulPersistent SchedulerStats where
  wellFormed_toJson s := by
    refine Json.wellFormed_ofMembers ?_
    simp [Json.wellFormed_ofUInt32, Json.wellFormed_map]
  ofJson?_toJson s := by
    have hfields : (toJson s).record? ["runs", "sensor_runs", "timeout_runs", "stale_runs", "dropped", "filter_failures"] =
        some [.ofUInt32 s.runs, .ofUInt32 s.sensorRuns, .ofUInt32 s.timeoutRuns, .ofUInt32 s.staleRuns,
          .array (s.dropped.toList.map .ofUInt32), .ofUInt32 s.filterFailures] := Json.record?_ofMembers (by simp)
    have hdropped : countersOfJson? sensorClassCount (.array (s.dropped.toList.map .ofUInt32)) = some s.dropped := by
      rw [countersOfJson?_array, dif_pos (Vector.length_toList ..)]
      rfl
    simp only [ofJson?]
    rw [hfields]
    simp [Json.uint32?_ofUInt32, hdropped]

/-! ## Texts -/

namespace Persistent

section Lawful

variable {α : Type} [Persistent α] [LawfulPersistent α]

theorem read?_write (a : α) : read? (write a) = some a := by
  rw [read?, write, Json.ofText?_text (wellFormed_toJson a)]
  exact ofJson?_toJson a

theorem write_inj {a b : α} : write a = write b ↔ a = b := by
  refine ⟨fun h => Option.some.inj ?_, congrArg write⟩
  rw [← read?_write a, h, read?_write b]

end Lawful

structure ReadsBack (α : Type) [Persistent α] : Prop where
  read_write : ∀ a : α, read? (write a) = some a
  distinct : ∀ a b : α, write a = write b ↔ a = b

theorem readsBack (α : Type) [Persistent α] [LawfulPersistent α] : ReadsBack α :=
  ⟨read?_write, fun _ _ => write_inj⟩

/-- Whatever is kept is read back: settings, acceptable or not, statistics, kinds, presets
    and alarm levels. -/
theorem kept_values_are_read_back :
    ReadsBack EstimationSettings ∧ ReadsBack SchedulerStats ∧ ReadsBack FilterKind ∧ ReadsBack FusionPreset ∧
      ReadsBack AlarmLevel :=
  ⟨readsBack _, readsBack _, readsBack _, readsBack _, readsBack _⟩

example : write (EstimationSettings.ofPreset .complementaryMag) =
    "\x7b\"timeout_ms\":100,\"filter_order\":[\"magnetometer\",\"barometer\",\"complementary_mag\"]\x7d" := by
  rfl

end Persistent

end SensorFusion
