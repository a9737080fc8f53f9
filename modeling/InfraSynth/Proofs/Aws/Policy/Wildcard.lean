import InfraSynth.Proofs.Aws.Policy
import InfraSynth.Proofs.Text

/-!
# What patterns of actions stand for

An action in a policy is a pattern, in which a star stands for any run of characters.
`StandsFor` says what a pattern stands for, and `Sweeps` that this is every action, or
every action of one service.  `sweeps_iff` says how such a pattern is written: as a
star alone, or as a service and stars.  `Reads` says of an action, or of a pattern,
that its verb begins like one that only reads.

## Strategy

Up to its first star a pattern is the same as what it stands for,
`standsFor_append_iff`, and a service has no star.  So a pattern that reads stands
only for actions that read, and what sweeps is decided by the verb alone.  Whatever
the verb has besides stars is in all that it stands for, `StandsFor.mem`, and no
character is in both `a` and `b`.
-/

namespace InfraSynth.Aws.PolicyDocument

variable {pattern text service verb : List Char} {action : String}

/-! ## Patterns -/

/-- A star of the pattern stands for any run of characters, any other character for
itself. -/
inductive StandsFor : List Char → List Char → Prop
  | nil : StandsFor [] []
  | star (run : List Char) {pattern text : List Char} (h : StandsFor pattern text) :
      StandsFor ('*' :: pattern) (run ++ text)
  | same {c : Char} {pattern text : List Char} (hc : c ≠ '*') (h : StandsFor pattern text) :
      StandsFor (c :: pattern) (c :: text)

/-- What is in a pattern besides stars is in all that it stands for. -/
theorem StandsFor.mem {c : Char} (h : StandsFor pattern text) (hc : c ∈ pattern)
    (hstar : c ≠ '*') : c ∈ text := by
  induction h with
  | nil => exact hc
  | star run _ ih =>
      exact List.mem_append_right run (ih ((List.mem_cons.mp hc).resolve_left hstar))
  | same _ _ ih => exact List.mem_cons.mpr ((List.mem_cons.mp hc).imp_right ih)

theorem standsFor_append_iff {literal : List Char} (h : '*' ∉ literal) :
    StandsFor (literal ++ pattern) text ↔
      ∃ rest, text = literal ++ rest ∧ StandsFor pattern rest := by
  induction literal generalizing text with
  | nil => simp
  | cons c literal ih =>
      obtain ⟨hc, hliteral⟩ := List.ne_and_not_mem_of_not_mem_cons h
      constructor
      · intro hstands
        cases hstands with
        | star => contradiction
        | same _ htail =>
            obtain ⟨rest, rfl, hrest⟩ := (ih hliteral).mp htail
            exact ⟨rest, rfl, hrest⟩
      · rintro ⟨rest, rfl, hrest⟩
        exact .same hc.symm ((ih hliteral).mpr ⟨rest, rfl, hrest⟩)

theorem standsFor_stars (more : Nat) (text : List Char) :
    StandsFor (List.replicate (more + 1) '*') text := by
  induction more with
  | zero =>
      have hstar := StandsFor.star text .nil
      rwa [List.append_nil] at hstar
  | succ more ih => exact StandsFor.star [] ih

/-! ## Actions of a service -/

/-- Letters, digits and hyphens. -/
def IsService (service : List Char) : Prop :=
  service ≠ [] ∧ ∀ c ∈ service, c.isAlphanum = true ∨ c = '-'

/-- Letters and digits. -/
def IsVerb (verb : List Char) : Prop :=
  verb ≠ [] ∧ ∀ c ∈ verb, c.isAlphanum = true

instance : Decidable (IsService service) :=
  decidable_of_iff (service ≠ [] ∧ service.all (fun c => c.isAlphanum || c = '-') = true)
    (by simp [IsService])

instance : Decidable (IsVerb verb) :=
  decidable_of_iff (verb ≠ [] ∧ verb.all Char.isAlphanum = true) (by simp [IsVerb])

theorem IsService.not_mem {c : Char} (h : IsService service) (hc : c.isAlphanum = false)
    (hhyphen : c ≠ '-') : c ∉ service := by
  intro hmem
  rcases h.2 c hmem with halphanum | heq
  · exact Bool.false_ne_true (hc.symm.trans halphanum)
  · exact hhyphen heq

theorem IsService.colon_not_mem (h : IsService service) : ':' ∉ service :=
  h.not_mem rfl (by decide)

/-- The service is taken as it is, and the verb as a pattern. -/
theorem IsService.standsFor_iff {service' verb' : List Char} (h : IsService service)
    (h' : IsService service') :
    StandsFor (service ++ ':' :: verb) (service' ++ ':' :: verb') ↔
      service = service' ∧ StandsFor verb verb' := by
  have hliteral : '*' ∉ service ++ [':'] := by
    simpa using h.not_mem rfl (by decide)
  rw [List.append_cons, standsFor_append_iff hliteral]
  simp only [List.append_assoc, List.singleton_append]
  constructor
  · rintro ⟨rest, htext, hrest⟩
    obtain ⟨rfl, rfl⟩ := Text.append_cons_inj h'.colon_not_mem h.colon_not_mem htext
    exact ⟨rfl, hrest⟩
  · rintro ⟨rfl, hverb⟩
    exact ⟨verb', rfl, hverb⟩

/-- A verb that stands for every verb has nothing but stars. -/
theorem exists_stars_of_standsFor (hne : verb ≠ [])
    (h : ∀ other, IsVerb other → StandsFor verb other) :
    ∃ more, verb = List.replicate (more + 1) '*' := by
  have hstars : ∀ c ∈ verb, c = '*' := by
    intro c hc
    by_contra hstar
    -- any other character would be in two verbs that have none in common
    have ha : c ∈ ['a'] := (h ['a'] (by decide)).mem hc hstar
    have hb : c ∈ ['b'] := (h ['b'] (by decide)).mem hc hstar
    rw [List.mem_singleton.mp ha] at hb
    exact absurd hb (by decide)
  obtain ⟨more, hmore⟩ := Nat.exists_eq_succ_of_ne_zero (List.length_pos_iff.mpr hne).ne'
  exact ⟨more, List.eq_replicate_iff.mpr ⟨hmore, hstars⟩⟩

/-- The pattern stands for every action of a service. -/
def SweepsService (pattern service : List Char) : Prop :=
  ∀ verb, IsVerb verb → StandsFor pattern (service ++ ':' :: verb)

/-- The pattern stands for every action, or for every action of one service. -/
def Sweeps (pattern : List Char) : Prop :=
  (∀ service, IsService service → SweepsService pattern service) ∨
    ∃ service, IsService service ∧ SweepsService pattern service

theorem Sweeps.exists_service (h : Sweeps pattern) :
    ∃ service, IsService service ∧ SweepsService pattern service := by
  rcases h with hall | hone
  · exact ⟨['a'], by decide, hall ['a'] (by decide)⟩
  · exact hone

/-- What sweeps is a star alone, or a service and stars. -/
theorem sweeps_iff (h : IsAction action) : Sweeps action.toList ↔ action = "*" ∨
    ∃ service more, IsService service ∧
      action.toList = service ++ ':' :: List.replicate (more + 1) '*' := by
  constructor
  · intro hsweeps
    obtain ⟨service, hservice, hall⟩ := hsweeps.exists_service
    refine h.imp_right ?_
    rintro ⟨own, verb, htext, hown, hverb, -⟩
    have hstands : ∀ other, IsVerb other → StandsFor verb other := by
      intro other hother
      have haction := hall other hother
      rw [htext, IsService.standsFor_iff hown hservice] at haction
      exact haction.2
    obtain ⟨more, rfl⟩ := exists_stars_of_standsFor hverb hstands
    exact ⟨own, more, hown, htext⟩
  · rintro (rfl | ⟨service, more, hservice, htext⟩)
    · exact .inl fun _ _ _ _ => standsFor_stars 0 _
    · refine .inr ⟨service, hservice, fun verb _ => ?_⟩
      rw [htext, hservice.standsFor_iff hservice]
      exact ⟨rfl, standsFor_stars more verb⟩

/-! ## Actions that read -/

/-- The verb begins like one that only reads. -/
def Reads (action : List Char) : Prop :=
  ∃ service verb, action = service ++ ':' :: verb ∧ ':' ∉ service ∧
    ∃ start ∈ readVerbs, start.toList <+: verb

theorem isReadAction_iff : isReadAction action = true ↔ Reads action.toList := by
  constructor
  · intro h
    unfold isReadAction at h
    split at h
    · rename_i service verb hsplit
      obtain ⟨htext, hcolon⟩ := Text.splitAt?_eq_some_iff.mp hsplit
      obtain ⟨start, hstart, hverb⟩ := List.any_eq_true.mp h
      exact ⟨service.toList, verb.toList, htext, hcolon, start, hstart,
        List.isPrefixOf_iff_prefix.mp hverb⟩
    · contradiction
  · rintro ⟨service, verb, htext, hcolon, start, hstart, hverb⟩
    have hsplit : Text.splitAt? ':' action =
        some (String.ofList service, String.ofList verb) :=
      Text.splitAt?_eq_some_iff.mpr (by simpa using ⟨htext, hcolon⟩)
    rw [isReadAction, hsplit]
    exact List.any_eq_true.mpr ⟨start, hstart, by simpa [Text.startsWith] using hverb⟩

theorem IsAction.isService (h : IsAction action) (htext : action.toList = service ++ ':' :: verb)
    (hcolon : ':' ∉ service) : IsService service := by
  rcases h with rfl | ⟨own, rest, hown, hservice, -⟩
  · have hmem : ':' ∈ "*".toList := by simp [htext]
    exact absurd hmem (by decide)
  · obtain ⟨rfl, -⟩ :=
      Text.append_cons_inj hcolon (IsService.colon_not_mem hservice) (htext.symm.trans hown)
    exact hservice

/-- A pattern that reads stands for nothing else. -/
theorem Reads.of_standsFor (h : IsAction action) (hreads : Reads action.toList)
    (hstands : StandsFor action.toList text) : Reads text := by
  have hstars : ∀ start ∈ readVerbs, '*' ∉ start.toList := by decide
  obtain ⟨service, _, htext, hcolon, start, hstart, rest, rfl⟩ := hreads
  -- neither the service nor the beginning of the verb has a star
  have hliteral : '*' ∉ service ++ ':' :: start.toList := by
    simpa using ⟨(h.isService htext hcolon).not_mem rfl (by decide), hstars start hstart⟩
  rw [htext, ← List.cons_append, ← List.append_assoc, standsFor_append_iff hliteral] at hstands
  obtain ⟨more, rfl, -⟩ := hstands
  exact ⟨service, start.toList ++ more, by simp, hcolon, start, hstart, List.prefix_append _ _⟩

/-- The verb of one letter is none that reads. -/
theorem IsService.not_reads (h : IsService service) : ¬Reads (service ++ [':', 'a']) := by
  have hstarts : ∀ start ∈ readVerbs, ¬start.toList <+: ['a'] := by decide
  rintro ⟨_, verb, htext, hcolon, start, hstart, hverb⟩
  obtain ⟨-, rfl⟩ := Text.append_cons_inj h.colon_not_mem hcolon htext
  exact hstarts start hstart hverb

/-- What sweeps stands for actions that do not read. -/
theorem Sweeps.not_reads (h : IsAction action) (hsweeps : Sweeps action.toList) :
    ¬Reads action.toList := by
  intro hreads
  obtain ⟨service, hservice, hall⟩ := hsweeps.exists_service
  have hstands : StandsFor action.toList (service ++ [':', 'a']) := hall ['a'] (by decide)
  exact hservice.not_reads (hreads.of_standsFor h hstands)

end InfraSynth.Aws.PolicyDocument
