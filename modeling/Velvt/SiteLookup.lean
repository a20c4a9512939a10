import Velvt.ClassifierPlugins
import Velvt.HostReduction

/-!
# Sites and their seeds

What a name has that names a site, and which seed answers for a site.
-/

namespace Velvt.Rules

open List

section Identity

/-- The name of a site. -/
structure NamesSite (site : String) : Prop where
  short : site.length ≤ 253
  letters : ∀ letter ∈ site.toList,
    'a' ≤ letter ∧ letter ≤ 'z' ∨ '0' ≤ letter ∧ letter ≤ '9' ∨ letter = '.' ∨ letter = '-'
  dotted : '.' ∈ site.toList
  labels : ∀ label ∈ site.toList.splitOn '.', label ≠ []
  notAddress : ∀ label ∈ (site.toList.splitOn '.').getLast?,
    ∃ letter ∈ label, ¬('0' ≤ letter ∧ letter ≤ '9')
  isPublic : ∀ name ∈ privateNetworkNames, site ≠ name ∧ ¬('.' :: name.toList) <:+ site.toList

variable {host site : String} {letter : Char}

theorem isSiteLetter_iff : isSiteLetter letter = true ↔
    'a' ≤ letter ∧ letter ≤ 'z' ∨ '0' ≤ letter ∧ letter ≤ '9' ∨ letter = '.' ∨ letter = '-' := by
  have isLower : letter.isLower = true ↔ 'a' ≤ letter ∧ letter ≤ 'z' := by
    unfold Char.isLower
    rw [Bool.and_eq_true, decide_eq_true_eq, decide_eq_true_eq]
    rfl
  simp only [isSiteLetter, Bool.or_eq_true, beq_iff_eq, isLower, Char.isDigit, Bool.and_eq_true,
    decide_eq_true_eq, or_assoc]
  rfl

theorem namesSite_of_siteIdentity (named : siteIdentity host = some site) : NamesSite site := by
  simp only [siteIdentity, Option.ite_none_right_eq_some, Option.some.injEq] at named
  obtain ⟨accepted, rfl⟩ := named
  generalize withoutWww (asciiLower host.toList) = letters at accepted
  simp only [Bool.and_eq_true, decide_eq_true_eq, Bool.not_eq_true', contains_iff_mem,
    all_eq_true, any_eq_false, Bool.or_eq_true, not_or, beq_iff_eq,
    isSuffixOf_iff_suffix] at accepted
  obtain ⟨⟨⟨⟨⟨⟨-, short⟩, admitted⟩, labels⟩, dotted⟩, isPublic⟩, notAddress⟩ := accepted
  constructor
  · rwa [String.length_ofList]
  · intro letter isLetter
    rw [String.toList_ofList] at isLetter
    exact isSiteLetter_iff.mp (admitted letter isLetter)
  · rwa [String.toList_ofList]
  · intro label isLabel
    rw [String.toList_ofList] at isLabel
    simpa using labels label isLabel
  · intro label isLast
    rw [String.toList_ofList] at isLast
    rw [getLastD_eq_getLast?, Option.mem_def.mp isLast, Option.getD_some,
      all_eq_false] at notAddress
    obtain ⟨letter, isLetter, notDigit⟩ := notAddress
    refine ⟨letter, isLetter, ?_⟩
    simpa [Char.isDigit, Char.le_def] using notDigit
  · intro name isName
    obtain ⟨differs, notSuffix⟩ := isPublic name isName
    rw [String.toList_ofList]
    refine ⟨?_, notSuffix⟩
    rintro rfl
    rw [String.toList_ofList] at differs
    exact differs rfl

theorem siteIdentity_www (bare : ¬"www.".toList <+: asciiLower host.toList) :
    siteIdentity ("www." ++ host) = siteIdentity host := by
  have kept : withoutWww (asciiLower host.toList) = asciiLower host.toList := by
    rw [withoutWww, if_neg]
    rwa [ isPrefixOf_iff_prefix]
  have stripped : withoutWww (asciiLower ("www." ++ host).toList) = asciiLower host.toList := by
    have lowered : asciiLower ("www." ++ host).toList = "www.".toList ++ asciiLower host.toList := by
      rw [String.toList_append, asciiLower, map_append]
      rfl
    rw [lowered, withoutWww, if_pos]
    · exact drop_left' (by decide)
    · rw [ isPrefixOf_iff_prefix]
      exact prefix_append _ _
  simp only [siteIdentity, kept, stripped]

end Identity

section Walk

/-- The seed that a table has for a suffix of a site, if it reaches the site. -/
def seedAt (seeds : List SiteSeed) (site : String) (suffix : List Char) : Option SiteSeed :=
  (seeds.find? fun seed => seed.host.toList == suffix).filter fun seed =>
    suffix.length == site.length || seed.scope == .withSubdomains

/-- The loop of `SiteMatcher::lookup`, for a number of steps. -/
def lookupLoop (seeds : List SiteSeed) (site : String) : Nat → List Char → Option (Option SiteSeed)
  | 0, _ => none
  | steps + 1, suffix =>
    match seedAt seeds site suffix with
    | some seed => some (some seed)
    | none =>
      match splitOnce ['.'] suffix with
      | none => some none
      | some (_, shorter) => lookupLoop seeds site steps shorter

/-- What follows a dot of a text, or the text. -/
def DotSuffix (suffix text : List Char) : Prop := suffix = text ∨ ('.' :: suffix) <:+ text

def dotSuffixes (text : List Char) : List (List Char) :=
  (text.splitOn '.').tails.dropLast.map fun labels => ['.'].intercalate labels

variable {seeds : List SiteSeed} {site : String} {text suffix front shorter : List Char}

theorem lookupSite_eq :
    lookupSite seeds site = (dotSuffixes site.toList).findSome? (seedAt seeds site) := by
  rw [dotSuffixes, List.findSome?_map]
  rfl

theorem dotSuffixes_of_not_mem (free : '.' ∉ text) : dotSuffixes text = [text] := by
  rw [dotSuffixes, splitOn_eq_singleton free]
  simp

theorem tails_ne_nil (labels : List (List Char)) : labels.tails ≠ [] := by
  intro isNil
  have lengths := congrArg List.length isNil
  rw [length_tails] at lengths
  cases lengths

theorem dotSuffixes_append (free : '.' ∉ front) :
    dotSuffixes (front ++ '.' :: shorter) = (front ++ '.' :: shorter) :: dotSuffixes shorter := by
  have whole : ['.'].intercalate (front :: shorter.splitOn '.') = front ++ '.' :: shorter := by
    rw [← splitOn_append_cons_self_of_not_mem free, intercalate_splitOn]
  rw [dotSuffixes, splitOn_append_cons_self_of_not_mem free, tails_cons,
    dropLast_cons_of_ne_nil (tails_ne_nil _), map_cons, whole, dotSuffixes]

theorem dots_induction {motive : List Char → Prop} (plain : ∀ text, '.' ∉ text → motive text)
    (dot : ∀ front shorter, '.' ∉ front → motive shorter → motive (front ++ '.' :: shorter))
    (text : List Char) : motive text := by
  induction hlen : text.length using Nat.strong_induction_on generalizing text with
  | _ length ih =>
    by_cases dotted : '.' ∈ text
    · obtain ⟨front, shorter, rfl, free⟩ := eq_append_cons_of_mem dotted
      apply dot front shorter free
      refine ih shorter.length ?_ shorter rfl
      rw [← hlen, length_append, length_cons]
      omega
    · exact plain text dotted

theorem dotSuffix_append_iff (free : '.' ∉ front) : DotSuffix suffix (front ++ '.' :: shorter) ↔
      suffix = front ++ '.' :: shorter ∨ DotSuffix suffix shorter := by
  constructor
  · rintro (same | ⟨more, isWhole⟩)
    · exact .inl same
    · right
      rcases append_eq_append_iff.mp isWhole with
        ⟨later, isFront, isLater⟩ | ⟨later, -, isShorter⟩
      · -- The dot of the suffix is not in front of the first.
        rcases later with - | ⟨first, others⟩
        · exact .inl (List.cons.inj isLater).2
        · rw [cons_append, List.cons.injEq] at isLater
          rw [isFront, ← isLater.1] at free
          exact absurd (mem_append_right _ mem_cons_self) free
      · rcases suffix_cons_iff.mp ⟨later, isShorter.symm⟩ with same | isSuffix
        · exact .inl (List.cons.inj same).2
        · exact .inr isSuffix
  · rintro (same | rfl | isSuffix)
    · exact .inl same
    · exact .inr (suffix_append _ _)
    · exact .inr ((isSuffix.trans (suffix_cons _ _)).trans (suffix_append _ _))

theorem mem_dotSuffixes : suffix ∈ dotSuffixes text ↔ DotSuffix suffix text := by
  induction text using dots_induction with
  | plain text free =>
    rw [dotSuffixes_of_not_mem free, mem_singleton, DotSuffix]
    refine ⟨.inl, fun either => either.resolve_right ?_⟩
    intro isSuffix
    exact free (isSuffix.subset mem_cons_self)
  | dot front shorter free ih =>
    rw [dotSuffixes_append free, mem_cons, ih, dotSuffix_append_iff free]

theorem pairwise_dotSuffixes :
    (dotSuffixes text).Pairwise fun longer shorter => shorter.length < longer.length := by
  induction text using dots_induction with
  | plain text free =>
    rw [dotSuffixes_of_not_mem free]
    exact pairwise_singleton _ _
  | dot front shorter free ih =>
    rw [dotSuffixes_append free, pairwise_cons]
    refine ⟨?_, ih⟩
    intro suffix isSuffix
    have le : suffix.length ≤ shorter.length := by
      rcases mem_dotSuffixes.mp isSuffix with rfl | isSuffix
      · exact le_rfl
      · exact (Nat.le_succ _).trans isSuffix.length_le
    rw [length_append, length_cons]
    omega

theorem lookupLoop_eq {steps : Nat} (enough : text.length < steps) :
    lookupLoop seeds site steps text = some ((dotSuffixes text).findSome? (seedAt seeds site)) := by
  induction text using dots_induction generalizing steps with
  | plain text free =>
    obtain ⟨steps, rfl⟩ := Nat.exists_eq_add_one_of_ne_zero (Nat.ne_zero_of_lt enough)
    rw [lookupLoop, splitOnce_eq_none free, dotSuffixes_of_not_mem free]
    cases isSeed : seedAt seeds site text with
    | none => simp [isSeed]
    | some seed => simp [isSeed]
  | dot front shorter free ih =>
    obtain ⟨steps, rfl⟩ := Nat.exists_eq_add_one_of_ne_zero (Nat.ne_zero_of_lt enough)
    have splits := @splitOnce_append '.' [] front shorter free
    rw [append_assoc, cons_append, nil_append] at splits
    rw [length_append, length_cons] at enough
    rw [lookupLoop, splits, dotSuffixes_append free, List.findSome?_cons]
    cases isSeed : seedAt seeds site (front ++ '.' :: shorter) with
    | none => exact ih (by omega)
    | some seed => rfl

end Walk

section Reach

/-- The seed is the earliest that the table lists for its host. -/
def SeedListed (seeds : List SiteSeed) (seed : SiteSeed) : Prop :=
  ∃ before after, seeds = before ++ seed :: after ∧ ∀ other ∈ before, other.host ≠ seed.host

/-- The seed reaches the site: it is for its host, or for a host that it is under. -/
def SeedReaches (seed : SiteSeed) (site : String) : Prop :=
  seed.host = site ∨ seed.scope = .withSubdomains ∧ ('.' :: seed.host.toList) <:+ site.toList

/-- The seed has the longest host of those that reach the site. -/
def IsSeedOf (seeds : List SiteSeed) (site : String) (seed : SiteSeed) : Prop :=
  SeedListed seeds seed ∧ SeedReaches seed site ∧
    ∀ other, SeedListed seeds other → SeedReaches other site → other.host.length ≤ seed.host.length

variable {seeds : List SiteSeed} {seed other : SiteSeed} {site host : String} {suffix : List Char}

theorem listed_iff : SeedListed seeds seed ↔
    seeds.find? (fun other => other.host.toList == seed.host.toList) = some seed := by
  rw [List.find?_eq_some_iff_append]
  simp [SeedListed, String.toList_inj]

theorem SeedReaches.dotSuffix (reaches : SeedReaches seed site) :
    DotSuffix seed.host.toList site.toList :=
  reaches.imp (congrArg String.toList) And.right

theorem DotSuffix.isSuffix {text : List Char} (dotSuffix : DotSuffix suffix text) :
    suffix <:+ text := by
  rcases dotSuffix with rfl | isSuffix
  · exact suffix_rfl
  · exact (suffix_cons _ _).trans isSuffix

theorem eq_of_suffix {one two text : List Char} (isOne : one <:+ text) (isTwo : two <:+ text)
    (same : one.length = two.length) : one = two :=
  (suffix_of_suffix_length_le isOne isTwo same.le).eq_of_length same

theorem seedAt_eq_some_iff (isSuffix : DotSuffix suffix site.toList) :
    seedAt seeds site suffix = some seed ↔
      seed.host.toList = suffix ∧ SeedListed seeds seed ∧ SeedReaches seed site := by
  simp only [seedAt, Option.filter_eq_some_iff, Bool.or_eq_true, beq_iff_eq]
  constructor
  · rintro ⟨found, reaches⟩
    obtain rfl : seed.host.toList = suffix := by simpa using List.find?_some found
    refine ⟨rfl, listed_iff.mpr found, ?_⟩
    rcases isSuffix with same | isSuffix
    · exact .inl (String.toList_inj.mp same)
    · rcases reaches with whole | scope
      · exact .inl (String.toList_inj.mp
          (eq_of_suffix (DotSuffix.isSuffix (.inr isSuffix)) suffix_rfl whole))
      · exact .inr ⟨scope, isSuffix⟩
  · rintro ⟨rfl, listed, reaches⟩
    refine ⟨listed_iff.mp listed, ?_⟩
    rcases reaches with rfl | ⟨scope, -⟩
    · exact .inl rfl
    · exact .inr scope

theorem isSeedOf_of_lookupSite (found : lookupSite seeds site = some seed) :
    IsSeedOf seeds site seed := by
  rw [lookupSite_eq, List.findSome?_eq_some_iff] at found
  obtain ⟨before, suffix, after, isSplit, isSeed, earlier⟩ := found
  have isDot : ∀ other ∈ before ++ suffix :: after, DotSuffix other site.toList := by
    intro other isOther
    rw [← isSplit] at isOther
    exact mem_dotSuffixes.mp isOther
  have isSuffix := isDot suffix (mem_append_right _ mem_cons_self)
  obtain ⟨rfl, listed, reaches⟩ := (seedAt_eq_some_iff isSuffix).mp isSeed
  refine ⟨listed, reaches, ?_⟩
  intro other otherListed otherReaches
  have isOther := mem_dotSuffixes.mpr otherReaches.dotSuffix
  have otherSeed := (seedAt_eq_some_iff otherReaches.dotSuffix).mpr ⟨rfl, otherListed, otherReaches⟩
  have order := @pairwise_dotSuffixes site.toList
  rw [isSplit] at isOther order
  rw [pairwise_append, pairwise_cons] at order
  -- The other seed does not stand at an earlier suffix, and every later one is shorter.
  rcases mem_append.mp isOther with isBefore | isAfter
  · rw [earlier _ isBefore] at otherSeed
    cases otherSeed
  · rcases mem_cons.mp isAfter with same | later
    · exact (congrArg List.length same).le
    · exact (order.2.1.1 _ later).le

theorem lookupSite_eq_none_iff :
    lookupSite seeds site = none ↔ ∀ seed, SeedListed seeds seed → ¬SeedReaches seed site := by
  rw [lookupSite_eq, List.findSome?_eq_none_iff]
  constructor
  · intro nowhere seed listed reaches
    have isSeed := (seedAt_eq_some_iff reaches.dotSuffix).mpr ⟨rfl, listed, reaches⟩
    rw [nowhere _ (mem_dotSuffixes.mpr reaches.dotSuffix)] at isSeed
    cases isSeed
  · intro unreached suffix isSuffix
    rw [mem_dotSuffixes] at isSuffix
    cases isSeed : seedAt seeds site suffix with
    | none => rfl
    | some seed =>
      obtain ⟨-, listed, reaches⟩ := (seedAt_eq_some_iff isSuffix).mp isSeed
      exact absurd reaches (unreached seed listed)

theorem lookupSite_eq_some_iff : lookupSite seeds site = some seed ↔ IsSeedOf seeds site seed := by
  refine ⟨isSeedOf_of_lookupSite, ?_⟩
  rintro ⟨listed, reaches, longest⟩
  cases found : lookupSite seeds site with
  | none => exact absurd reaches (lookupSite_eq_none_iff.mp found seed listed)
  | some other =>
    obtain ⟨otherListed, otherReaches, otherLongest⟩ := isSeedOf_of_lookupSite found
    have lengths : other.host.toList.length = seed.host.toList.length :=
      le_antisymm (longest other otherListed otherReaches) (otherLongest seed listed reaches)
    have sameHost :=
      eq_of_suffix (DotSuffix.isSuffix otherReaches.dotSuffix)
        (DotSuffix.isSuffix reaches.dotSuffix) lengths
    rw [listed_iff, sameHost, listed_iff.mp listed] at otherListed
    exact otherListed.symm

/-- What a host is the identity of, and the seed of a site: of the seeds that are the earliest for
their host and reach the site, the one with the longest host. -/
theorem site_identity_and_seed (host : String) (seeds : List SiteSeed) :
    (∀ site, siteIdentity host = some site → NamesSite site) ∧
      (¬"www.".toList <+: asciiLower host.toList →
        siteIdentity ("www." ++ host) = siteIdentity host) ∧
      ∀ site, siteIdentity host = some site →
        (∀ steps, site.length < steps →
          lookupLoop seeds site steps site.toList = some (lookupSite seeds site)) ∧
        (∀ seed, lookupSite seeds site = some seed ↔ IsSeedOf seeds site seed) ∧
        (lookupSite seeds site = none ↔ ∀ seed, SeedListed seeds seed → ¬SeedReaches seed site) := by
  refine ⟨fun site => namesSite_of_siteIdentity, siteIdentity_www, ?_⟩
  intro site _
  refine ⟨?_, fun seed => lookupSite_eq_some_iff, lookupSite_eq_none_iff⟩
  intro steps enough
  rw [lookupLoop_eq enough, lookupSite_eq]

/-- A host listed first for itself alone, and again for the hosts under it. -/
def listedTwice : List SiteSeed :=
  [{ host := "example.com", scope := .hostOnly, label := "document:docs", category := "REFERENCE" },
    { host := "example.com", scope := .withSubdomains, label := "document:docs"
      category := "REFERENCE" }]

/-- The second listing of a host is not looked up, though it reaches a site. -/
theorem second_listing_is_not_looked_up :
    siteIdentity "docs.example.com" = some "docs.example.com" ∧
      ¬(lookupSite listedTwice "docs.example.com" = none ↔
        ∀ seed ∈ listedTwice, ¬SeedReaches seed "docs.example.com") := by
  have nothing : (lookupSite listedTwice "docs.example.com").isNone = true := by decide +kernel
  rw [Option.isNone_iff_eq_none] at nothing
  refine ⟨by decide +kernel, ?_⟩
  intro same
  have isSecond : listedTwice[1] ∈ listedTwice := getElem_mem _
  apply same.mp nothing listedTwice[1] isSecond
  right
  exact ⟨rfl, by decide⟩

end Reach

end Velvt.Rules
