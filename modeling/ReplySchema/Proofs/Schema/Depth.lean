import ReplySchema.Proofs.Schema.Passing

/-!
The limit on nesting. What is kept of a value nests no deeper than the value, and the limit makes no
difference to the check of what nests within it.
-/

namespace ReplySchema

namespace Schema

/-- What is kept of a value nests no deeper than the value. -/
theorem depth_project_le_depth {s : Schema} {v : Value} {d : Nat} (h : v.depth ≤ d) :
    (s.project v).depth ≤ d := by
  induction s using nodes generalizing v d with
  | primitive m k =>
    rw [project]
    exact h
  | array m item ih =>
    cases v with
    | array vs =>
      obtain ⟨hpos, hvs⟩ := Value.depth_array_le_iff.1 h
      rw [project, Value.depth_array_le_iff]
      refine ⟨hpos, fun w hw => ?_⟩
      obtain ⟨u, hu, rfl⟩ := List.mem_map.1 hw
      exact ih (hvs u hu)
    | _ =>
      rw [project]
      · exact h
      · rintro _ ⟨⟩
  | object m fields ih =>
    rw [project]
    cases hms : v.members? with
    | some ms =>
      obtain ⟨hpos, hmembers⟩ := Value.depth_members_le hms h
      rw [Value.depth_object_le_iff]
      refine ⟨hpos, fun e he => ?_⟩
      obtain ⟨child, u, hc, hu, hp⟩ := mem_projectFields he
      rw [hp]
      exact ih _ hc (hmembers _ (find?_mem hu))
    | none => exact h

variable {d limit : Nat}

theorem confirm_eq_of_depth_le (m : Marks) (message : Text → Text) {a : Value} (hd : a.depth ≤ d)
    (hl : a.depth ≤ limit) : m.confirm d message a = m.confirm limit message a := by
  rw [Marks.confirm, Marks.confirm, Json.encode_eq_of_depth_le hd hl]

/-- A run inside a container, and what is made of its result, under two limits that allow both. -/
theorem inside_bind_eq {α β : Type} {run : Nat → Run α} {f g : α → Run β} (hd : 0 < d)
    (hl : 0 < limit) (h : run (d - 1) = run (limit - 1))
    (hf : ∀ a, (run (d - 1)).result = .ok a → f a = g a) :
    (Run.inside d run).bind f = (Run.inside limit run).bind g := by
  obtain ⟨a, rfl⟩ := Nat.exists_eq_add_one.2 hd
  obtain ⟨b, rfl⟩ := Nat.exists_eq_add_one.2 hl
  rw [Nat.add_sub_cancel] at hf
  have hrun : run a = run b := h
  rw [Run.inside_succ, Run.inside_succ, ← hrun]
  cases hr : (run a).result with
  | ok r => rw [Run.bind_of_ok hr, Run.bind_of_ok hr, hf r hr]
  | error e => rw [Run.bind_of_error hr, Run.bind_of_error hr]

/-- The limit makes no difference to the check of what nests within it. -/
theorem check_eq_of_depth_le {s : Schema} {v : Value} (hd : v.depth ≤ d) (hl : v.depth ≤ limit) :
    s.check d v = s.check limit v := by
  induction s using nodes generalizing v d limit with
  | primitive m k =>
    rw [check, check, confirm_eq_of_depth_le m _ hd hl]
  | array m item ih =>
    cases v with
    | array vs =>
      obtain ⟨hdpos, hditems⟩ := Value.depth_array_le_iff.1 hd
      obtain ⟨hlpos, hlitems⟩ := Value.depth_array_le_iff.1 hl
      rw [check, check]
      have hchecks :
          checkItems (item.check (d - 1)) 0 vs = checkItems (item.check (limit - 1)) 0 vs := by
        refine checkItems_congr rfl (fun i v w hv hw => ?_) 0
        cases hv.symm.trans hw
        exact ih (hditems v (List.mem_of_getElem? hv)) (hlitems v (List.mem_of_getElem? hv))
      refine inside_bind_eq hdpos hlpos hchecks fun rs hrs => ?_
      rw [checkItems_result (check_result (d - 1) item), outcome_eq_ok_iff] at hrs
      obtain ⟨-, rfl⟩ := hrs
      have hproject : (array m item).project (.array vs) = .array (vs.map item.project) := by
        rw [project]
      rw [← hproject]
      exact confirm_eq_of_depth_le m _ (depth_project_le_depth hd) (depth_project_le_depth hl)
    | _ => rfl
  | object m fields ih =>
    rw [check, check]
    cases hms : v.members? with
    | none => rfl
    | some ms =>
      obtain ⟨hdpos, hdmembers⟩ := Value.depth_members_le hms hd
      obtain ⟨hlpos, hlmembers⟩ := Value.depth_members_le hms hl
      have hchecks : checkFields (d - 1) fields ms = checkFields (limit - 1) fields ms := by
        refine checkFields_congr (fun _ _ => rfl) fun f hf v w hv hw => ?_
        cases hv.symm.trans hw
        exact ih f hf (hdmembers _ (find?_mem hv)) (hlmembers _ (find?_mem hv))
      refine inside_bind_eq hdpos hlpos hchecks fun rs hrs => ?_
      rw [checkFields_result fun f _ => check_result (d - 1) f.2, outcome_eq_ok_iff] at hrs
      obtain ⟨-, rfl⟩ := hrs
      rw [← project_object (m := m) hms]
      exact confirm_eq_of_depth_le m _ (depth_project_le_depth hd) (depth_project_le_depth hl)

end Schema

end ReplySchema
