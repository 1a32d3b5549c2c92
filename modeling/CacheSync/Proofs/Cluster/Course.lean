import CacheSync.Cluster.Course
import CacheSync.Proofs.Cluster.Working
import Mathlib.Data.List.Induction

/-!
# Along a course

What every deed of a course preserves holds after all of it, and what its deeds show is seen along
it, one after the other.  Unlike a `Run` a course asks for nothing in particular.
-/

namespace CacheSync.Cluster

variable {start cluster middle after : Cluster}

theorem after?_append (deeds more : List Deed) :
    cluster.after? (deeds ++ more) =
      (cluster.after? deeds).bind fun middle => middle.after? more := by
  induction deeds generalizing cluster with
  | nil => rfl
  | cons deed rest inductionHypothesis =>
      simp only [List.cons_append, after?, Option.bind_assoc, inductionHypothesis]

theorem after?_singleton (deed : Deed) : cluster.after? [deed] = cluster.do? deed := by
  simp only [after?, Option.bind_fun_some]

/-- What holds at first and is preserved by every deed holds after every course. -/
theorem after?_induction {motive : List Deed → Cluster → Prop} (nil : motive [] start)
    (concat : ∀ {deeds : List Deed} {middle after : Cluster} (deed : Deed),
      start.after? deeds = some middle → motive deeds middle → middle.do? deed = some after →
        motive (deeds ++ [deed]) after)
    {deeds : List Deed} (went : start.after? deeds = some after) : motive deeds after := by
  induction deeds using List.reverseRecOn generalizing after with
  | nil =>
      injection went with same
      exact same ▸ nil
  | append_singleton deeds deed inductionHypothesis =>
      rw [after?_append] at went
      obtain ⟨middle, early, late⟩ := Option.bind_eq_some_iff.1 went
      rw [after?_singleton] at late
      exact concat deed early (inductionHypothesis early) late

/-! ## What is seen along a course -/

/-- What each deed of a course shows, one after the other. -/
def along {α : Type} (shows : Cluster → Deed → List α) (cluster : Cluster) : List Deed → List α
  | [] => []
  | deed :: rest =>
      shows cluster deed ++
        match cluster.do? deed with
        | none => []
        | some next => next.along shows rest

theorem along_concat {α : Type} (shows : Cluster → Deed → List α) {deeds : List Deed}
    (went : start.after? deeds = some middle) (deed : Deed) :
    start.along shows (deeds ++ [deed]) = start.along shows deeds ++ shows middle deed := by
  induction deeds generalizing start with
  | nil =>
      injection went with same
      subst same
      simp only [List.nil_append, along]
      split <;> simp
  | cons first rest inductionHypothesis =>
      obtain ⟨next, did, went⟩ := Option.bind_eq_some_iff.1 went
      simp only [List.cons_append, along, did, inductionHypothesis went, List.append_assoc]

end CacheSync.Cluster
