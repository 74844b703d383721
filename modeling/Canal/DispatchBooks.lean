import Mathlib.Data.List.Nodup
import Canal.Dispatch

namespace Canal
set_option autoImplicit true

namespace SinkSystem

variable {s t : SinkSystem} {os os' : List SinkNote} {result : Events}
  {i j : Nat}

theorem unsent_set {calls : List SinkStage} (hi : calls[i]? = some before) (after : SinkStage)
    (j : Nat) :
    (calls.set i after)[j]?.bind SinkStage.unsent =
      if i = j then after.unsent else calls[j]?.bind SinkStage.unsent := by
  have hlt : i < calls.length := (List.getElem?_eq_some_iff.1 hi).1
  rw [List.getElem?_set]
  by_cases hj : i = j
  · rw [if_pos hj, if_pos hj, if_pos hlt, Option.bind_some]
  · rw [if_neg hj, if_neg hj]

theorem returned_set {calls : List SinkStage} (hi : calls[i]? = some before)
    (hb : before.isEnded = false) (after : SinkStage)
    (hj : calls[j]? = some (SinkStage.returned result)) :
    (calls.set i after)[j]? = some (SinkStage.returned result) := by
  rw [List.getElem?_set, if_neg]
  · exact hj
  · rintro rfl
    rw [hi, Option.some.injEq] at hj
    rw [hj] at hb
    cases hb

/-- The calls against what they have shown. -/
structure Booked (os : List SinkNote) (s : SinkSystem) : Prop where
  unsent_or_returned : ∀ r ∈ appends os,
    s.unsent r.call = some r.events ∨ ∃ result, .returned r.call result ∈ os
  unsent_appended : ∀ i events, s.unsent i = some events → ⟨i, events⟩ ∈ appends os
  unsent_not_enqueued : ∀ i, (s.unsent i).isSome = true → ∀ r ∈ enqueues os, r.call ≠ i
  returned_stage : ∀ i result, .returned i result ∈ os →
    s.calls[i]? = some (SinkStage.returned result)
  enqueued_returned : ∀ r ∈ enqueues os, r ∈ appends os ∧ ∃ result, .returned r.call result ∈ os
  appended_nodup : (appends os).Nodup
  enqueued_nodup : (enqueues os).Nodup

theorem unsent_of_stage (hi : s.calls[i]? = some stage) : s.unsent i = stage.unsent := by
  rw [unsent, hi, Option.bind_some]

theorem Booked.quiet (h : Booked os s) (ha : appends os' = []) (he : enqueues os' = [])
    (hr : ∀ i result, SinkNote.returned i result ∉ os') (hu : ∀ j, t.unsent j = s.unsent j)
    (hk : ∀ (i : Nat) (result : Events), s.calls[i]? = some (SinkStage.returned result) →
      t.calls[i]? = some (SinkStage.returned result)) : Booked (os ++ os') t := by
  have hmem : ∀ i result, .returned i result ∈ os ++ os' ↔ .returned i result ∈ os := by
    intro i result
    rw [List.mem_append, or_iff_left (hr i result)]
  constructor
  all_goals
    simp only [appends_append, enqueues_append, ha, he, List.append_nil, hu, hmem]
  · exact h.unsent_or_returned
  · exact h.unsent_appended
  · exact h.unsent_not_enqueued
  · exact fun i result hi => hk i result (h.returned_stage i result hi)
  · exact h.enqueued_returned
  · exact h.appended_nodup
  · exact h.enqueued_nodup

theorem Booked.append (h : Booked os s) (hi : s.calls[i]? = some (.filtered events))
    (ht : t.calls = s.calls.set i (.stored events batchId)) :
    Booked (os ++ [.appended ⟨i, events⟩]) t := by
  have hu : ∀ j, t.unsent j = if i = j then some events else s.unsent j := by
    intro j
    rw [unsent, ht, unsent_set hi]
    rfl
  have hnone : s.unsent i = none := unsent_of_stage hi
  have hnew : ∀ r ∈ appends os, r.call ≠ i := by
    intro r hr hc
    rcases h.unsent_or_returned r hr with hw | ⟨result, hres⟩
    · rw [hc, hnone] at hw
      cases hw
    · have hst := h.returned_stage _ _ hres
      rw [hc, hi] at hst
      cases hst
  have hap : appends (os ++ [.appended ⟨i, events⟩]) = appends os ++ [⟨i, events⟩] :=
    appends_append
  have hen : enqueues (os ++ [.appended ⟨i, events⟩]) = enqueues os :=
    enqueues_append.trans (List.append_nil _)
  have hmem : ∀ j result, .returned j result ∈ os ++ [.appended ⟨i, events⟩] ↔
      .returned j result ∈ os := by
    intro j result
    simp
  constructor
  all_goals simp only [hap, hen, hmem]
  · intro r hr
    rcases List.mem_append.1 hr with hr | hr
    · rw [hu, if_neg (Ne.symm (hnew r hr))]
      exact h.unsent_or_returned r hr
    · rw [List.mem_singleton.1 hr, hu, if_pos rfl]
      exact .inl rfl
  · intro j evs hj
    rw [hu] at hj
    by_cases hij : i = j
    · rw [if_pos hij, Option.some.injEq] at hj
      subst hij hj
      exact List.mem_append_right _ (List.mem_singleton_self _)
    · rw [if_neg hij] at hj
      exact List.mem_append_left _ (h.unsent_appended j evs hj)
  · intro j hj r hr
    by_cases hij : i = j
    · subst hij
      exact hnew r (h.enqueued_returned r hr).1
    · rw [hu, if_neg hij] at hj
      exact h.unsent_not_enqueued j hj r hr
  · intro j result hj
    rw [ht]
    exact returned_set hi rfl _ (h.returned_stage j result hj)
  · intro r hr
    obtain ⟨hm, hres⟩ := h.enqueued_returned r hr
    exact ⟨List.mem_append_left _ hm, hres⟩
  · rw [List.nodup_append]
    refine ⟨h.appended_nodup, List.nodup_singleton _, ?_⟩
    intro r hr r' hr' heq
    rw [List.mem_singleton.1 hr'] at heq
    exact hnew r hr (heq ▸ rfl)
  · exact h.enqueued_nodup

theorem Booked.answer (h : Booked os s) (hi : s.calls[i]? = some before)
    (hb : before.isEnded = false) (ht : t.calls = s.calls.set i (.returned result))
    (hsent : sent = [] ∨ ∃ events, before.unsent = some events ∧
      sent = [.enqueued ⟨i, events⟩]) :
    Booked (os ++ (sent ++ [.returned i result])) t := by
  have hu : ∀ j, t.unsent j = if i = j then none else s.unsent j := by
    intro j
    rw [unsent, ht, unsent_set hi]
    rfl
  have hap : appends (os ++ (sent ++ [.returned i result])) = appends os := by
    rcases hsent with rfl | ⟨events, -, rfl⟩
    · exact appends_append.trans (List.append_nil _)
    · exact appends_append.trans (List.append_nil _)
  have hnew : ∀ r ∈ enqueues sent, s.unsent i = some r.events ∧ r.call = i := by
    intro r hr
    rcases hsent with rfl | ⟨events, hev, rfl⟩
    · cases hr
    · rw [List.mem_singleton.1 hr, unsent_of_stage hi]
      exact ⟨hev, rfl⟩
  have hsnodup : (enqueues sent).Nodup := by
    rcases hsent with rfl | ⟨events, -, rfl⟩
    · exact List.nodup_nil
    · exact List.nodup_singleton _
  have hen : enqueues (os ++ (sent ++ [.returned i result])) = enqueues os ++ enqueues sent := by
    rw [enqueues_append, enqueues_append]
    exact congrArg _ (List.append_nil _)
  have hmem : ∀ j res, .returned j res ∈ os ++ (sent ++ [.returned i result]) ↔
      .returned j res ∈ os ∨ j = i ∧ res = result := by
    intro j res
    rcases hsent with rfl | ⟨events, -, rfl⟩
    · simp
    · simp
  constructor
  all_goals simp only [hap, hen, hmem]
  · intro r hr
    by_cases hij : i = r.call
    · exact .inr ⟨result, .inr ⟨hij.symm, rfl⟩⟩
    · rw [hu, if_neg hij]
      rcases h.unsent_or_returned r hr with hw | ⟨res, hres⟩
      · exact .inl hw
      · exact .inr ⟨res, .inl hres⟩
  · intro j evs hj
    rw [hu] at hj
    split at hj
    · cases hj
    · exact h.unsent_appended j evs hj
  · intro j hj r hr
    rw [hu] at hj
    split at hj
    · cases hj
    · rename_i hij
      rcases List.mem_append.1 hr with hr | hr
      · exact h.unsent_not_enqueued j hj r hr
      · rw [(hnew r hr).2]
        exact hij
  · rintro j res (hj | ⟨rfl, rfl⟩)
    · rw [ht]
      exact returned_set hi hb _ (h.returned_stage j res hj)
    · rw [ht, List.getElem?_set, if_pos rfl, if_pos (List.getElem?_eq_some_iff.1 hi).1]
  · intro r hr
    rcases List.mem_append.1 hr with hr | hr
    · obtain ⟨hm, res, hres⟩ := h.enqueued_returned r hr
      exact ⟨hm, res, .inl hres⟩
    · obtain ⟨hw, rfl⟩ := hnew r hr
      exact ⟨h.unsent_appended _ _ hw, result, .inr ⟨rfl, rfl⟩⟩
  · exact h.appended_nodup
  · rw [List.nodup_append]
    refine ⟨h.enqueued_nodup, hsnodup, ?_⟩
    intro r hr r' hr' heq
    obtain ⟨hw, hc⟩ := hnew r' hr'
    exact h.unsent_not_enqueued i (by rw [hw]; rfl) r hr (heq ▸ hc)

theorem Booked.frame (h : Booked os s) (hc : t.calls = s.calls) (ha : appends os' = [])
    (he : enqueues os' = []) (hr : ∀ i result, SinkNote.returned i result ∉ os') :
    Booked (os ++ os') t := by
  apply h.quiet ha he hr
  · intro j
    rw [unsent, hc, unsent]
  · intro i result hi
    rw [hc]
    exact hi

theorem Booked.proceed (h : Booked os s) (hi : s.calls[i]? = some before)
    (hb : before.isEnded = false) (hc : t.calls = s.calls.set i after)
    (hun : before.unsent = after.unsent) : Booked (os ++ []) t := by
  apply h.quiet rfl rfl (fun _ _ => List.not_mem_nil)
  · intro j
    rw [unsent, hc, unsent_set hi]
    by_cases hij : i = j
    · rw [if_pos hij, ← hun, ← unsent_of_stage hi, hij]
    · rw [if_neg hij, unsent]
  · intro j result hj
    rw [hc]
    exact returned_set hi hb after hj

theorem Booked.turn (h : Booked os s) (ht : Turn s t os') : Booked (os ++ os') t := by
  cases ht with
  | idle => exact h.frame rfl rfl rfl (fun _ _ => List.not_mem_nil)
  | called events hd =>
    apply h.quiet rfl rfl (fun _ _ => List.not_mem_nil)
    · intro j
      simp only [unsent]
      by_cases hj : j < s.calls.length
      · rw [List.getElem?_append_left hj]
      · rw [List.getElem?_append_right (not_lt.1 hj), List.getElem?_eq_none (not_lt.1 hj)]
        cases j - s.calls.length <;> rfl
    · intro j result hj
      rw [List.getElem?_append_left (List.getElem?_eq_some_iff.1 hj).1]
      exact hj
  | filtered hi | panicked hi | ensured hi => exact h.proceed hi rfl rfl rfl
  | appended hi => exact h.append hi rfl
  | empty hi | storedOnly hi | refused hi => exact h.answer hi rfl rfl (.inl rfl)
  | sent hi => exact h.answer hi rfl rfl (.inr ⟨_, rfl, rfl⟩)
  | received | passed | finished | closed | dropped | cancelled =>
    exact h.frame rfl rfl rfl (by simp)

end SinkSystem

end Canal
