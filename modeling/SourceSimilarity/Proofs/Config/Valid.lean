import SourceSimilarity.Config.Basic

namespace SourceSimilarity.Config

open Json (Value)

theorem positive?_whole (n : Nat) : positive? (.whole n) = if 1 ≤ n then some n else none := by
  rw [Value.whole, positive?]
  by_cases positive : 1 ≤ n
  · rw [if_pos positive, if_pos (by omega), Int.toNat_natCast]
  · rw [if_neg positive, if_neg (by omega)]

theorem check_toDraft_iff (config : Config) :
    config.toDraft.check = .ok config ↔
      1 ≤ config.threads ∧ config.enabled ≠ [] ∧ Comparator.arrange config.enabled = config.enabled ∧
        1 ≤ config.k ∧ 1 ≤ config.w ∧ isShare config.unreadableShare = true := by
  obtain ⟨threads, enabled, normalizer, k, w, share⟩ := config
  unfold Draft.check toDraft
  simp only [positive?_whole]
  -- the checks in their order, each with the error that it gives
  by_cases someThreads : 1 ≤ threads
  case neg =>
    simp only [someThreads, if_false, false_and, iff_false]
    exact nofun
  by_cases none : enabled = []
  case pos =>
    simp [someThreads, none]
    exact nofun
  by_cases someK : 1 ≤ k
  case neg => simp [someThreads, none, someK]
  by_cases someW : 1 ≤ w
  case neg => simp [someThreads, none, someK, someW]
  by_cases between : isShare share = true
  case neg =>
    simp [someThreads, none, someK, someW, between]
    exact nofun
  simp [someThreads, none, someK, someW, between]
  constructor
  · intro valid
    exact congrArg Config.enabled (Except.ok.inj valid)
  · intro arranged
    rw [arranged]
    rfl

end SourceSimilarity.Config
