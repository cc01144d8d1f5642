/-
# Values that are the same key

Whether two values are the same key does not depend on which of them comes first, though the
comparison takes each kind of number apart from one side. A mapping of entries whose keys are
all different keeps every entry: nothing is put in the place of another.

Key theorems: `Value.same_comm`, `Value.mapOf_eq`.
-/
import SchemaDepot.Value

namespace SchemaDepot

/-- Only moments of one kind, both with a zone or both without, are compared. -/
theorem Moment.same_comm (x y : Moment) : x.same y = y.same x := by
  unfold same
  cases x.offset with
  | none =>
    cases y.offset with
    | none => exact Bool.beq_comm
    | some p => rfl
  | some o =>
    cases y.offset with
    | none => rfl
    | some p => exact Bool.beq_comm

theorem Binary64.same_comm (x y : Binary64) : x.same y = y.same x := by
  unfold same
  rw [Bool.and_comm x.isZero]
  by_cases h : x = y
  · rw [h]
  · have hxy : (x == y) = false := beq_false_of_ne h
    have hyx : (y == x) = false := beq_false_of_ne (Ne.symm h)
    rw [hxy, hyx]
    rfl

namespace Value

mutual

/-- **Sameness goes both ways.** -/
theorem same_comm (v w : Value) : v.same w = w.same v := by
  match v with
  | .tuple xs =>
    match w with
    | .tuple ys =>
      simp only [same]
      exact sameItems_comm xs ys
    | .null | .bool _ | .int _ | .float _ | .text _ | .bytes _ | .date _ | .moment _ | .list _
    | .set _ | .map _ | .shared _ => rfl
  | .float x =>
    cases w with
    | float y =>
      simp only [same]
      exact Binary64.same_comm x y
    | _ => rfl
  | .moment x =>
    cases w with
    | moment y =>
      simp only [same]
      exact Moment.same_comm x y
    | _ => rfl
  | .null | .bool _ | .int _ | .text _ | .bytes _ | .date _ | .list _ | .set _ | .map _
  | .shared _ =>
    cases w <;> first | rfl | (simp only [same, asInt?]; exact Bool.beq_comm)

theorem sameItems_comm (vs ws : List Value) : sameItems vs ws = sameItems ws vs := by
  match vs, ws with
  | [], [] => rfl
  | [], _ :: _ | _ :: _, [] => rfl
  | v :: vs, w :: ws => simp only [sameItems, same_comm v w, sameItems_comm vs ws]

end

/-- The values are different keys. -/
def Differs (v w : Value) : Prop := v.same w = false

variable {done entries : List (Value × Value)} {k v : Value}

theorem putEntry_of_differs (h : ∀ e ∈ done, e.1.Differs k) :
    putEntry done k v = done ++ [(k, v)] := by
  have hany : (done.any fun e => e.1.same k) = false := by
    rw [List.any_eq_false]
    exact fun e he => Bool.eq_false_iff.mp (h e he)
  unfold putEntry
  rw [hany]
  rfl

theorem foldl_putEntry_of_differs (h : ((done ++ entries).map Prod.fst).Pairwise Differs) :
    entries.foldl (fun es e => putEntry es e.1 e.2) done = done ++ entries := by
  induction entries generalizing done with
  | nil => exact (List.append_nil done).symm
  | cons e entries ih =>
    have hnew : ∀ d ∈ done, d.1.Differs e.1 := by
      intro d hd
      rw [List.map_append, List.pairwise_append] at h
      exact h.2.2 _ (List.mem_map_of_mem hd) _ List.mem_cons_self
    rw [List.foldl_cons, putEntry_of_differs hnew, ih]
    · rw [List.append_assoc, List.singleton_append]
    · rwa [List.append_assoc, List.singleton_append]

/-- **Different keys keep their entries.** -/
theorem mapOf_eq (h : (entries.map Prod.fst).Pairwise Differs) : mapOf entries = .map entries :=
  congrArg Value.map (foldl_putEntry_of_differs h)

end Value

end SchemaDepot
