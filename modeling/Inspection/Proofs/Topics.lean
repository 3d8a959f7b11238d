import Inspection.Entity
import Mathlib.Data.List.Induction
import Mathlib.Data.List.Nodup

/-!
# Subscriptions by topic

Subscriptions are filed one after the other: under their topic, if it is there,
and else under a new topic at the end.  What comes out is every topic once, in
the order in which the topics first came, with its subscriptions in order.
-/

namespace Inspection

namespace FirstPlaces

variable {α : Type} [DecidableEq α] {a : α} {all : List α}

theorem eraseDups_concat_of_mem (h : a ∈ all) : (all ++ [a]).eraseDups = all.eraseDups := by
  have hremoved : [a].removeAll all = [] := by simp [List.removeAll, h]
  rw [List.eraseDups_append, hremoved, List.eraseDups_nil, List.append_nil]

theorem eraseDups_concat_of_notMem (h : a ∉ all) :
    (all ++ [a]).eraseDups = all.eraseDups ++ [a] := by
  have hkept : [a].removeAll all = [a] := by simp [List.removeAll, h]
  rw [List.eraseDups_append, hkept]
  rfl

theorem pairwise_eraseDups (all : List α) :
    all.eraseDups.Pairwise fun a b => all.idxOf a < all.idxOf b := by
  induction all using List.reverseRecOn with
  | nil => simp
  | append_singleton all a ih =>
      have hplace : ∀ b ∈ all, (all ++ [a]).idxOf b = all.idxOf b := fun b hb =>
        List.idxOf_append_of_mem hb
      have hold : all.eraseDups.Pairwise fun b c =>
          (all ++ [a]).idxOf b < (all ++ [a]).idxOf c := by
        refine ih.imp_of_mem fun hb hc hlt => ?_
        rwa [hplace _ (List.mem_eraseDups.mp hb), hplace _ (List.mem_eraseDups.mp hc)]
      by_cases ha : a ∈ all
      · rw [eraseDups_concat_of_mem ha]
        exact hold
      · rw [eraseDups_concat_of_notMem ha]
        refine List.pairwise_append.mpr ⟨hold, List.pairwise_singleton _ _, ?_⟩
        intro b hb c hc
        obtain rfl := List.mem_singleton.mp hc
        have hb := List.mem_eraseDups.mp hb
        have hlast : (all ++ [c]).idxOf c = all.length := by
          rw [List.idxOf_append_of_notMem ha]
          simp
        rw [hplace b hb, hlast]
        exact List.idxOf_lt_length_of_mem hb

theorem nodup_eraseDups (all : List α) : all.eraseDups.Nodup := by
  refine (pairwise_eraseDups all).imp ?_
  rintro a b hlt rfl
  exact Nat.lt_irrefl _ hlt

end FirstPlaces

namespace TopicSubscriptions

variable {resourceArn : String} {subscription : EventSubscription} {topics : List String}
  {filed : String → TopicSubscriptions}

theorem file_of_mem (hfiled : ∀ topic, (filed topic).topicArn = topic) (hnodup : topics.Nodup)
    (h : subscription.topicArn ∈ topics) :
    file resourceArn subscription (topics.map filed) = topics.map fun topic =>
      if topic = subscription.topicArn then
        { filed topic with events := (filed topic).events ++ [subscription] }
      else filed topic := by
  induction topics with
  | nil => exact absurd h List.not_mem_nil
  | cons topic rest ih =>
      obtain ⟨hnew, hrest⟩ := List.nodup_cons.mp hnodup
      rw [List.map_cons, List.map_cons, file]
      by_cases htopic : topic = subscription.topicArn
      · -- the topic does not come again
        have hothers : ∀ other ∈ rest, other ≠ subscription.topicArn := by
          rintro other hother rfl
          exact hnew (htopic ▸ hother)
        rw [if_pos ((hfiled topic).trans htopic), if_pos htopic]
        congr 1
        refine List.map_congr_left fun other hother => ?_
        rw [if_neg (hothers other hother)]
      · have hlater : subscription.topicArn ∈ rest :=
          (List.mem_cons.mp h).resolve_left (Ne.symm htopic)
        rw [if_neg (by rwa [hfiled]), if_neg htopic, ih hrest hlater]

theorem file_of_notMem (hfiled : ∀ topic, (filed topic).topicArn = topic)
    (h : subscription.topicArn ∉ topics) :
    file resourceArn subscription (topics.map filed) =
      topics.map filed ++ [⟨resourceArn, subscription.topicArn, [subscription]⟩] := by
  induction topics with
  | nil => rfl
  | cons topic rest ih =>
      obtain ⟨hne, hrest⟩ := not_or.mp (mt List.mem_cons.mpr h)
      rw [List.map_cons, file, hfiled, if_neg (Ne.symm hne), ih hrest, List.cons_append]

/-- The subscriptions to one topic. -/
def collect (resourceArn : String) (subscriptions : List EventSubscription) (topicArn : String) :
    TopicSubscriptions :=
  ⟨resourceArn, topicArn, subscriptions.filter (·.topicArn = topicArn)⟩

end TopicSubscriptions

namespace AssessmentTemplate

theorem topics_eq (template : AssessmentTemplate) :
    template.topics = (template.subscriptions.map (·.topicArn)).eraseDups.map
      (TopicSubscriptions.collect template.arn template.subscriptions) := by
  unfold topics
  -- on the last subscription, which is filed into what the former ones came to
  induction template.subscriptions using List.reverseRecOn with
  | nil => rfl
  | append_singleton former subscription ih =>
      have hnodup := FirstPlaces.nodup_eraseDups (former.map (·.topicArn))
      rw [List.foldl_append, List.foldl_cons, List.foldl_nil, ih, List.map_append,
        List.map_singleton]
      by_cases htopic : subscription.topicArn ∈ former.map (·.topicArn)
      · have hlisted := List.mem_eraseDups.mpr htopic
        rw [FirstPlaces.eraseDups_concat_of_mem htopic,
          TopicSubscriptions.file_of_mem (fun _ => rfl) hnodup hlisted]
        refine List.map_congr_left fun topic _ => ?_
        by_cases heq : topic = subscription.topicArn
        · simp [TopicSubscriptions.collect, heq]
        · simp [TopicSubscriptions.collect, heq, Ne.symm heq]
      · have hunlisted := mt List.mem_eraseDups.mp htopic
        have hnone : former.filter (·.topicArn = subscription.topicArn) = [] := by
          rw [List.filter_eq_nil_iff]
          intro other hother heq
          exact htopic (of_decide_eq_true heq ▸ List.mem_map_of_mem hother)
        rw [FirstPlaces.eraseDups_concat_of_notMem htopic,
          TopicSubscriptions.file_of_notMem (fun _ => rfl) hunlisted, List.map_append]
        congr 1
        · refine List.map_congr_left fun topic hmem => ?_
          have hne : topic ≠ subscription.topicArn := by
            rintro rfl
            exact hunlisted hmem
          simp [TopicSubscriptions.collect, Ne.symm hne]
        · simp [TopicSubscriptions.collect, hnone]

end AssessmentTemplate

end Inspection
