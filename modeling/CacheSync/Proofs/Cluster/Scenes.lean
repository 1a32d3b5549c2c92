import CacheSync.Cluster.Scene
import CacheSync.Proofs.Cluster.Apart
import CacheSync.Proofs.Cluster.Partings
import CacheSync.Proofs.Ring.Shift

/-!
# The steps of a parting

The steps of a worker that is not about to end are those of the cluster.  If nobody comes between
the five steps by which a worker ends, they are the one step by which it ends in the cluster.
-/

namespace CacheSync

theorem Ending.reports_eq {verdict : Verdict} {why : Ending} (ends : verdict.ending? = some why)
    (side : Side) : why.reports side = Workers.verdictMarks side verdict := by
  cases verdict with
  | goOn => cases ends
  | giveUp | cancelled | crashed =>
      cases ends
      rfl

theorem Ending.count_reports (why : Ending) (side : Side) :
    (why.reports side).count (.workerFailed side) = if why.isFailure then 1 else 0 := by
  unfold reports
  split
  · exact List.count_singleton_self
  · rfl

/-! ## The steps of a parting in a row -/

namespace Cluster

variable {cluster middle after : Cluster} {index stripe : Nat} {sending : Sending} {why : Ending}

/-- By the step with which the handler of a worker returns that is to end, the worker of the cluster
ends at once. -/
theorem producerWork_of_ending? (stripe : Nat)
    (ends : (cluster.sendStep index sending).ending? = some (middle, why)) :
    ∃ verdict, verdict.ending? = some why ∧ cluster.producerWork index stripe sending =
      some (middle.settleProducer index stripe verdict []) := by
  unfold producerWork
  cases outcome : cluster.sendStep index sending with
  | moved after later =>
      rw [outcome] at ends
      cases ends
  | blocked =>
      rw [outcome] at ends
      cases ends
  | done after result =>
      rw [outcome] at ends
      obtain ⟨ending, verdict, same⟩ := Option.map_eq_some_iff.1 ends
      cases same
      have unmarked : resultMarks sending.job result = [] := by
        rcases result with error | done
        · cases error <;> first | rfl | cases verdict
        · rfl
      refine ⟨verdictOf result, verdict, ?_⟩
      dsimp only
      rw [unmarked]
  | crashed after =>
      rw [outcome] at ends
      cases ends
      exact ⟨.crashed, rfl, rfl⟩

/-- To report, to close the stripe and to end, one after the other, is to settle. -/
theorem settleProducer_of_ending (cluster : Cluster) (index stripe : Nat) {verdict : Verdict}
    (ends : verdict.ending? = some why) :
    (((cluster.modifyNode index fun node => node.markAll (why.reports .producer)).closeStripe index
      stripe).setWorker index stripe (.ended why)) =
        cluster.settleProducer index stripe verdict [] := by
  have settle (workers : Workers Job Sending) :
      workers.settle stripe verdict = workers.endWorker stripe why := by
    cases verdict <;> cases ends <;> rfl
  have crew (producer : Crew Job Sending) :
      (producer.modify fun workers =>
        { workers with ring := workers.ring.closeStripe stripe }).modify
          (fun workers => workers.setWorker stripe (.ended why)) =
        producer.modify fun workers => workers.settle stripe verdict := by
    cases producer with
    | direct => rfl
    | striped workers =>
        simp only [Crew.modify, settle]
        rfl
  simp only [setWorker, closeStripe, settleProducer, modifyProducer, modifyNode,
    List.modify_modify_eq, Ending.reports_eq ends, List.nil_append]
  congr 2
  funext node
  simp only [Function.comp_apply, crew]

end Cluster

namespace Scene

open Cluster (stepTime)

variable {scene : Scene} {index stripe : Nat}

/-- What there is to see of the producer of a node. -/
def sight (scene : Scene) (node : Node) : Sight :=
  ⟨node.standing, scene.partings, scene.failed, scene.stopper⟩

theorem do?_worker (scene : Scene) (index stripe : Nat) :
    scene.do? index (.step (.producerWorker index stripe)) = scene.work? index stripe := by
  simp only [do?, Thread.stripeAt?, ↓reduceIte]

/-- If nobody comes between, the five steps by which a worker ends are the one by which it ends in
the cluster. -/
theorem after?_of_farewell (stays : scene.partings[stripe]? = some none) {between later : Cluster}
    {why : Ending} (ends : scene.cluster.farewell? index stripe = some (between, why))
    (stepped : scene.cluster.step? (.producerWorker index stripe) = some later) :
    scene.after? index (List.replicate 5 (.step (.producerWorker index stripe))) =
      some { scene with
        cluster := later
        failed := scene.failed + if why = .crashed then 1 else 0 } := by
  obtain ⟨inRange, _⟩ := List.getElem?_eq_some_iff.1 stays
  obtain ⟨sending, works, ending⟩ := Option.bind_eq_some_iff.1 ends
  obtain ⟨verdict, final, worked⟩ := Cluster.producerWork_of_ending? stripe ending
  have later_eq : later = (between.settleProducer index stripe verdict []).pass stepTime := by
    obtain ⟨workers, crew, busy⟩ := Option.bind_eq_some_iff.1 works
    have act : scene.cluster.act? (.producerWorker index stripe) =
        some (between.settleProducer index stripe verdict []) := by
      simp only [Cluster.act?, Cluster.producerStep?, crew, busy, worked]
    simpa only [Cluster.step?, act, Option.map_some, Option.some.injEq, eq_comm] using stepped
  have settled := (between.pass stepTime).settleProducer_of_ending index stripe final
  simp only [List.replicate, after?, do?_worker, work?, stays, ends, Option.bind_some, depart,
    setParting, become, List.getElem?_set_self, inRange, List.set_set,
    set_of_getElem? stays, settled, later_eq]
  rfl

/-- Each step of the cluster is a course of a scene in which nobody comes between. -/
theorem exists_after?_of_step? {thread : Thread} {later : Cluster}
    (stays : ∀ stripe, thread.stripeAt? index = some stripe → scene.partings[stripe]? = some none)
    (stepped : scene.cluster.step? thread = some later) :
    ∃ acts next, scene.after? index acts = some next ∧ next.cluster = later ∧
      next.partings = scene.partings ∧ next.stopper = scene.stopper := by
  cases mine : thread.stripeAt? index with
  | none =>
      refine ⟨[.step thread], scene.become later, ?_, rfl, rfl, rfl⟩
      simp only [after?, do?, mine, stepped, Option.map_some, Option.bind_some]
  | some stripe =>
      have thread_eq : thread = .producerWorker index stripe := by
        cases thread with
        | producerWorker place held =>
            simp only [Thread.stripeAt?] at mine
            split at mine
            next here =>
              cases mine
              rw [here]
            next => cases mine
        | caller | consumerWorker | cleaner => cases mine
      subst thread_eq
      have stays := stays stripe mine
      cases ends : scene.cluster.farewell? index stripe with
      | some farewell =>
          exact ⟨_, _, after?_of_farewell stays ends stepped, rfl, rfl, rfl⟩
      | none =>
          refine ⟨[.step (.producerWorker index stripe)], scene.become later, ?_, rfl, rfl, rfl⟩
          simp only [after?, do?_worker, work?, stays, ends, stepped, Option.map_some,
            Option.bind_some]

end Scene
end CacheSync
