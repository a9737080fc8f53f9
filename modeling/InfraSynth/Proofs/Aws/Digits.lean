import InfraSynth.Aws.Subnet
import InfraSynth.Aws.TargetGroup.Check
import InfraSynth.Proofs.Aws.Arn
import InfraSynth.Proofs.Aws.MetricAlarm
import InfraSynth.Proofs.Aws.Provider
import InfraSynth.Proofs.Check
import InfraSynth.Proofs.Resource
import InfraSynth.Proofs.Text

/-!
# The digits of regions, zones and accounts

Regions, zones, status codes and statistics are told by patterns, and so are the accounts in
resource names.  The patterns ask for digits, and a digit of any script is one: the region
`us-east-1` may end in a wide `１` as well.  `isAscii_iff_hasUsualDigits` says that this is
all there is beyond ASCII in a text that is accepted.

## Strategy

A text that a pattern matches consists of the characters that the pattern names
(`Pattern.exists_mem_sets_of_matches`).  So no pattern has to be read: that each of its sets
is that of the digits or within ASCII is computed, once for every form.  Accounts stand in
the middle of a name whose last part is free, so they are cut out at the colons first, of
which the parts before them hold none.
-/

namespace InfraSynth

namespace Unicode

/-- The text belongs to ASCII. -/
def IsAscii (text : List Char) : Prop :=
  ∀ c ∈ text, c.toNat < 128

/-- Of the digits of all scripts, the text has the usual ones only. -/
def HasUsualDigits (text : List Char) : Prop :=
  ∀ c ∈ text, isDigit c = true → c.isDigit = true

instance (text : List Char) : Decidable (IsAscii text) :=
  List.decidableBAll _ text

instance (text : List Char) : Decidable (HasUsualDigits text) :=
  List.decidableBAll _ text

/-- The digits of ASCII are the usual ones, and they come first. -/
theorem isDigit_of_toNat_lt {c : Char} (hdigit : isDigit c = true) (hascii : c.toNat < 128) :
    c.isDigit = true := by
  obtain ⟨range, hrange, hlow, hhigh⟩ := Ranges.contains_iff.mp hdigit
  have hfirst : ∀ range ∈ digitRanges, range = (0x30, 0x39) ∨ 128 ≤ range.1 := by decide
  rcases hfirst range hrange with rfl | hlater
  · simp only [Char.isDigit, Bool.and_eq_true, decide_eq_true_eq, ge_iff_le,
      UInt32.le_iff_toNat_le]
    exact ⟨hlow, hhigh⟩
  · omega

theorem toNat_lt_of_isDigit {c : Char} (h : c.isDigit = true) : c.toNat < 128 := by
  simp only [Char.isDigit, Bool.and_eq_true, decide_eq_true_eq, ge_iff_le,
    UInt32.le_iff_toNat_le] at h
  exact Nat.lt_of_le_of_lt h.2 (by decide)

theorem IsAscii.hasUsualDigits {text : List Char} (h : IsAscii text) : HasUsualDigits text :=
  fun c hc hdigit => isDigit_of_toNat_lt hdigit (h c hc)

end Unicode

namespace Aws

open Interpolation (IsReference)
open Unicode (IsAscii HasUsualDigits)

variable {text : String}

/-! ## Texts of a fixed form -/

/-- What texts of a fixed form stand for. -/
inductive Form
  | region
  | zone
  | zoneId
  /-- Status codes of requests. -/
  | statusCodes
  /-- Status codes of remote procedure calls. -/
  | callCodes
  | extendedStatistic

namespace Form

/-- The pattern of the form. -/
def pattern : Form → Pattern
  | region => Region.pattern
  | zone => zonePattern
  | zoneId => zoneIdPattern
  | statusCodes => TargetGroup.httpMatcher
  | callCodes => TargetGroup.grpcMatcher
  | extendedStatistic => extendedStatisticPattern

/-- The text is accepted where one of the form is expected, and not because it is an
interpolation. -/
inductive Accepts : Form → String → Prop
  | region {text : String} (h : Region.check text = .ok ()) : Accepts .region text
  | zone {text : String} {subnet : Subnet} (h : Resource.validate subnet = .ok ())
      (hgiven : subnet.zone = some text) (hliteral : ¬IsReference text) : Accepts .zone text
  | zoneId {text : String} {subnet : Subnet} (h : Resource.validate subnet = .ok ())
      (hgiven : subnet.zoneId = some text) (hliteral : ¬IsReference text) : Accepts .zoneId text
  | statusCodes {text : String} {group : TargetGroup} {check : HealthCheck}
      (h : Resource.validate group = .ok ()) (hcheck : group.healthCheck = some check)
      (hgiven : check.matcher = some text)
      (hversion : group.protocolVersion ≠ some .grpc) : Accepts .statusCodes text
  | callCodes {text : String} {group : TargetGroup} {check : HealthCheck}
      (h : Resource.validate group = .ok ()) (hcheck : group.healthCheck = some check)
      (hgiven : check.matcher = some text)
      (hversion : group.protocolVersion = some .grpc) : Accepts .callCodes text
  | extendedStatistic {text : String} {alarm : MetricAlarm} (h : Resource.validate alarm = .ok ())
      (hgiven : alarm.extendedStatistic = some text) : Accepts .extendedStatistic text

variable {form : Form}

/-- The patterns name digits, of whatever script, and otherwise ASCII characters. -/
theorem eq_digit_or_isWithinAscii (form : Form) :
    ∀ chars ∈ form.pattern.sets, chars = .digit ∨ chars.isWithinAscii = true := by
  cases form <;> decide +kernel

theorem consistent_pattern (form : Form) : form.pattern.Consistent := by
  cases form <;>
    simp [pattern, Region.pattern, zonePattern, zoneIdPattern, TargetGroup.httpMatcher,
      TargetGroup.grpcMatcher, TargetGroup.codeList, extendedStatisticPattern, Pattern.oneOf,
      Pattern.between, Pattern.Consistent]

/-- The zone and its identifier have the forms that are expected. -/
theorem accepts_of_validate_subnet {subnet : Subnet} (h : Resource.validate subnet = .ok ()) :
    (∀ zone ∈ subnet.zone, IsReference zone ∨ zonePattern.accepts zone = true) ∧
      ∀ zoneId ∈ subnet.zoneId, IsReference zoneId ∨ zoneIdPattern.accepts zoneId = true := by
  have hnone : subnet.violations = [] := Resource.validate_eq_ok_iff.mp h
  simp only [Subnet.violations, Subnet.checkZone, List.append_eq_nil_iff,
    toList_flatMap_eq_nil_iff, Check.formatOrReference_eq_nil_iff] at hnone
  obtain ⟨⟨⟨-, ⟨-, hzone⟩, hzoneId⟩, -⟩, -⟩ := hnone
  exact ⟨hzone, hzoneId⟩

/-- So do the status codes of a health check. -/
theorem accepts_of_validate_group {group : TargetGroup} {check : HealthCheck} {codes : String}
    (h : Resource.validate group = .ok ()) (hcheck : group.healthCheck = some check)
    (hcodes : check.matcher = some codes) :
    (if group.protocolVersion = some .grpc then TargetGroup.grpcMatcher
      else TargetGroup.httpMatcher).accepts codes = true := by
  have hnone : group.violations = [] := Resource.validate_eq_ok_iff.mp h
  simp only [TargetGroup.violations, TargetGroup.checkHealth, List.append_eq_nil_iff,
    toList_flatMap_eq_nil_iff] at hnone
  obtain ⟨⟨⟨-, hchecks⟩, -⟩, -⟩ := hnone
  obtain ⟨-, hmatchers⟩ := hchecks check hcheck
  have hmatcher := hmatchers codes hcodes
  simp only [TargetGroup.checkHealthMatcher, List.append_eq_nil_iff, Check.format_eq_nil_iff]
    at hmatcher
  exact hmatcher.2

theorem Accepts.accepts_pattern (h : form.Accepts text) : form.pattern.accepts text = true := by
  cases h with
  | region h => exact Region.accepts_pattern_iff.mpr (Region.check_eq_ok_iff.mp h)
  | zone h hgiven hliteral =>
      exact ((accepts_of_validate_subnet h).1 text hgiven).resolve_left hliteral
  | zoneId h hgiven hliteral =>
      exact ((accepts_of_validate_subnet h).2 text hgiven).resolve_left hliteral
  | statusCodes h hcheck hgiven hversion =>
      have hcodes := accepts_of_validate_group h hcheck hgiven
      rwa [if_neg hversion] at hcodes
  | callCodes h hcheck hgiven hversion =>
      have hcodes := accepts_of_validate_group h hcheck hgiven
      rwa [if_pos hversion] at hcodes
  | @extendedStatistic _ alarm h hgiven =>
      have hnone := MetricAlarm.violations_eq_nil_of_validate h
      simp only [MetricAlarm.violations, MetricAlarm.checkStatistic, List.append_eq_nil_iff,
        toList_flatMap_eq_nil_iff, Check.format_eq_nil_iff] at hnone
      obtain ⟨⟨⟨⟨⟨⟨-, ⟨-, hstatistic⟩, -⟩, -⟩, -⟩, -⟩, -⟩, -⟩ := hnone
      exact hstatistic text hgiven

/-- A text that is accepted goes beyond ASCII only by its digits. -/
theorem Accepts.isAscii_iff (h : form.Accepts text) :
    IsAscii text.toList ↔ HasUsualDigits text.toList := by
  refine ⟨IsAscii.hasUsualDigits, fun hdigits c hc => ?_⟩
  obtain ⟨chars, hchars, hcontains⟩ := Pattern.exists_mem_sets_of_matches
    ((Pattern.accepts_iff form.consistent_pattern).mp h.accepts_pattern) c hc
  rcases form.eq_digit_or_isWithinAscii chars hchars with rfl | hascii
  · exact Unicode.toNat_lt_of_isDigit (hdigits c hc hcontains)
  · exact CharSet.toNat_lt_of_isWithinAscii hascii hcontains

end Form

/-! ## Accounts -/

/-- The account in a resource name is what stands between its fourth and its fifth
colon. -/
def IsAccountOf (account : List Char) (name : String) : Prop :=
  ∃ front resource, name.toList = front ++ ':' :: (account ++ ':' :: resource) ∧
    front.count ':' = 3 ∧ ':' ∉ account

/-- Twelve digits of one kind or another, `aws`, or nothing. -/
def IsAccount (isDigit : Char → Bool) (account : List Char) : Prop :=
  account = [] ∨ account = "aws".toList ∨
    account.length = 12 ∧ ∀ c ∈ account, isDigit c = true

/-- A resource name has one account. -/
theorem exists_isAccountOf {name : String} (h : IsArn name) :
    ∃ account, (∀ other, IsAccountOf other name ↔ other = account) ∧
      IsAccount Unicode.isDigit account := by
  obtain ⟨partition, service, region, account, resource, hname, hpartition, ⟨-, hservice⟩, hregion,
    haccount, -⟩ := h
  have hcolon : ∀ part : List Char, (∀ c ∈ part, c.isAlphanum = true ∨ c = '-') → ':' ∉ part := by
    intro part hpart hmem
    rcases hpart ':' hmem with hc | hc <;> revert hc <;> decide
  have hfree : ':' ∉ account := by
    intro hmem
    rcases haccount with rfl | ⟨-, hdigits⟩ | rfl
    · cases hmem
    · exact absurd (hdigits ':' hmem) (by decide)
    · revert hmem
      decide
  -- the parts before the account hold no colons, so there are three before the fourth one
  let front := "arn:aws".toList ++ (partition ++ ':' :: (service ++ ':' :: region))
  have hcount : front.count ':' = 3 := by
    have hpart : ∀ c ∈ partition, c.isAlphanum = true ∨ c = '-' := fun c hc =>
      (hpartition c hc).imp_left fun halpha => by simp [Char.isAlphanum, halpha]
    have hreg : ∀ c ∈ region, c.isAlphanum = true ∨ c = '-' := fun c hc => by
      rcases hregion c hc with hlower | hdigit | hhyphen
      · left
        show (c.isUpper || c.isLower || c.isDigit) = true
        simp [hlower]
      · exact .inl (by simp [Char.isAlphanum, hdigit])
      · exact .inr hhyphen
    simp [front, List.count_eq_zero.mpr (hcolon _ hpart),
      List.count_eq_zero.mpr (hcolon _ hservice), List.count_eq_zero.mpr (hcolon _ hreg)]
  have hsplit : name.toList = front ++ ':' :: (account ++ ':' :: resource) := by
    simpa [front] using hname
  refine ⟨account, fun other => ⟨?_, ?_⟩, haccount.imp_right Or.symm⟩
  · rintro ⟨before, rest, hother, hbefore, hnone⟩
    obtain ⟨-, hafter⟩ :=
      Text.append_cons_inj_of_count (hother.symm.trans hsplit) (hbefore.trans hcount.symm)
    exact (Text.append_cons_inj hnone hfree hafter).1
  · rintro rfl
    exact ⟨front, resource, hsplit, hcount, hfree⟩

theorem IsAccount.isDigit_iff {account : List Char} (h : IsAccount Unicode.isDigit account) :
    IsAccount Char.isDigit account ↔ HasUsualDigits account := by
  constructor
  · rintro (rfl | rfl | ⟨-, hdigits⟩)
    · exact fun c hc => by cases hc
    · exact IsAscii.hasUsualDigits (by decide)
    · exact fun c hc _ => hdigits c hc
  · intro hdigits
    rcases h with hnone | haws | ⟨hlength, hall⟩
    · exact .inl hnone
    · exact .inr (.inl haws)
    · exact .inr (.inr ⟨hlength, fun c hc => hdigits c hc (hall c hc)⟩)

/-- **Texts of a fixed form go beyond ASCII only by their digits, which may be those of any
script.**  So do the accounts in resource names. -/
theorem isAscii_iff_hasUsualDigits (text : String) :
    (∀ form : Form, form.Accepts text → (IsAscii text.toList ↔ HasUsualDigits text.toList)) ∧
    ∀ field, ¬IsReference text → checkArn field text = [] →
      ∃ account, (∀ other, IsAccountOf other text ↔ other = account) ∧
        IsAccount Unicode.isDigit account ∧
        (IsAccount Char.isDigit account ↔ HasUsualDigits account) := by
  refine ⟨fun form h => h.isAscii_iff, fun field hliteral h => ?_⟩
  have harn : IsArn text := (checkArn_eq_nil_iff.mp h).resolve_left hliteral
  obtain ⟨account, hone, haccount⟩ := exists_isAccountOf harn
  exact ⟨account, hone, haccount, haccount.isDigit_iff⟩

/-- A region and an account with digits of ASCII. -/
theorem isAscii_government :
    Form.region.Accepts "us-gov-west-1" ∧ IsAscii "us-gov-west-1".toList ∧
      IsAccountOf "123456789012".toList "arn:aws-us-gov:iam::123456789012:role/app" ∧
      IsAccount Char.isDigit "123456789012".toList := by
  have hregion : Form.region.Accepts "us-gov-west-1" := .region (by decide +kernel)
  have hdigits : HasUsualDigits "us-gov-west-1".toList := by decide +kernel
  have haccount : HasUsualDigits "123456789012".toList := by decide +kernel
  have hliteral : ¬IsReference "arn:aws-us-gov:iam::123456789012:role/app" := by
    rw [← Interpolation.isInterpolation_iff]
    decide
  obtain ⟨account, hone, -, husual⟩ :=
    (isAscii_iff_hasUsualDigits "arn:aws-us-gov:iam::123456789012:role/app").2 "role" hliteral
      (by decide +kernel)
  have hgiven : IsAccountOf "123456789012".toList "arn:aws-us-gov:iam::123456789012:role/app" :=
    ⟨"arn:aws-us-gov:iam:".toList, "role/app".toList, by decide, by decide, by decide⟩
  obtain rfl := (hone _).mp hgiven
  exact ⟨hregion, ((isAscii_iff_hasUsualDigits _).1 .region hregion).mpr hdigits, hgiven,
    husual.mpr haccount⟩

/-- Digits of another script are accepted in a region and in an account. -/
theorem not_isAscii_wideDigits :
    (Form.region.Accepts "us-east-３" ∧ ¬IsAscii "us-east-３".toList) ∧
      ¬IsReference "arn:aws:iam::１２３456789012:role/app" ∧
      checkArn "role" "arn:aws:iam::１２３456789012:role/app" = [] ∧
      IsAccountOf "１２３456789012".toList "arn:aws:iam::１２３456789012:role/app" ∧
      ¬IsAccount Char.isDigit "１２３456789012".toList := by
  have hregion : Form.region.Accepts "us-east-３" := .region (by decide +kernel)
  have hwide : ¬IsAscii "us-east-３".toList := by decide
  have hliteral : ¬IsReference "arn:aws:iam::１２３456789012:role/app" := by
    rw [← Interpolation.isInterpolation_iff]
    decide
  have hname : checkArn "role" "arn:aws:iam::１２３456789012:role/app" = [] := by decide +kernel
  have hgiven : IsAccountOf "１２３456789012".toList "arn:aws:iam::１２３456789012:role/app" :=
    ⟨"arn:aws:iam:".toList, "role/app".toList, by decide, by decide, by decide⟩
  refine ⟨⟨hregion, hwide⟩, hliteral, hname, hgiven, ?_⟩
  rintro (h | h | ⟨-, h⟩)
  · revert h
    decide
  · revert h
    decide
  · exact absurd (h '１' (by decide)) (by decide)

end Aws

end InfraSynth
