import TaleLoom.Proofs.Placeholder.Cleared
/-!
A text that is one placeholder. Its placeholder is tried once: a text without braces that answers it is
what the whole text is expanded to (`resolve_answered`), and where nothing answers it the text stays as it
is (`resolve_refused`).
-/

namespace TaleLoom.Resolver

open Text

variable {resolver : Resolver} {token : Token} {depth : Int} {scene after : Scene}

theorem trialOf_single (resolver : Resolver) (token : Token) (depth : Int) (scene : Scene) :
    resolver.trialOf depth { rejected := [] } scene (.token token) = some ⟨depth, token, scene⟩ := rfl

theorem segments_single (h : token.Proper) :
    segments (String.ofList token.text).toList = [.token token] := by
  rw [String.toList_ofList]
  exact (Segment.Sound.token h).segments_text

/-- Below the greatest depth there is at least one pass. -/
theorem exists_passes (hdepth : depth < resolver.options.maxDepth) :
    ∃ passes, (resolver.options.maxDepth - depth).toNat = passes + 1 :=
  ⟨(resolver.options.maxDepth - depth).toNat - 1, by omega⟩

/-- A text without braces that answers the placeholder takes its place. -/
theorem resolve_answered (h : token.Proper) (hdepth : depth < resolver.options.maxDepth) {s : String}
    (hbare : Bare s.toList)
    (hrun : resolver.resolveToken (trim token.body) scene = .ok (some (.text s)) after) :
    resolver.resolve (String.ofList token.text) depth scene =
      .ok s (after.expanded ⟨depth, token, scene⟩ (.text s)) := by
  obtain ⟨passes, hpasses⟩ := exists_passes hdepth
  have hsegment := run_passSegment_of_some (trialOf_single resolver token depth scene)
  rw [Trial.outcome, hrun] at hsegment
  have hjoin : joinPieces [.text s] = .ok s.toList := by
    have hnil : joinPieces [] = .ok [] := rfl
    rw [joinPieces_text s hnil, List.append_nil]
  have hpass := run_pass resolver depth [] (String.ofList token.text).toList scene
  simp only [segments_single h, passSegments, Act.run_bind, hsegment, Act.run_pure, PassState.replace,
    if_true, hjoin] at hpass
  simp only [resolve, hpasses, expand, Act.run_bind, hpass, if_true, run_expand_bare _ _ _ hbare,
    Act.run_pure, String.ofList_toList]

/-- Where nothing answers the placeholder it is kept. -/
theorem resolve_refused (h : token.Proper) (hdepth : depth < resolver.options.maxDepth)
    (hrun : resolver.resolveToken (trim token.body) scene = .ok none after) :
    resolver.resolve (String.ofList token.text) depth scene = .ok (String.ofList token.text) after := by
  obtain ⟨passes, hpasses⟩ := exists_passes hdepth
  have hsegment := run_passSegment_of_some (trialOf_single resolver token depth scene)
  rw [Trial.outcome, hrun] at hsegment
  have hpass := run_pass resolver depth [] (String.ofList token.text).toList scene
  simp only [segments_single h, passSegments, Act.run_bind, hsegment, Act.run_pure, PassState.reject,
    Bool.false_eq_true, if_false] at hpass
  simp only [resolve, hpasses, expand, Act.run_bind, hpass, Bool.false_eq_true, if_false, Act.run_pure,
    String.ofList_toList]

end TaleLoom.Resolver
