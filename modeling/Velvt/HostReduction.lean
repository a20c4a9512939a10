import Velvt.WindowKeys

/-!
# The host of a focused document

The parts of a URL with an authority, and what the splitter of `focused_site_context` makes of them.
-/

namespace Velvt.Rules

open List Option

section Pieces

variable {Letter : Type*} {accept : Letter → Bool} {front rest text : List Letter}

theorem takeWhile_append_stop (accepted : ∀ letter ∈ front, accept letter = true)
    (stops : ∀ letter ∈ rest.head?, accept letter = false) :
    (front ++ rest).takeWhile accept = front := by
  rw [takeWhile_append_of_pos accepted]
  cases rest with
  | nil => rw [takeWhile_nil, append_nil]
  | cons letter rest =>
    rw [takeWhile_cons_of_neg, append_nil]
    rw [stops letter rfl]
    exact Bool.false_ne_true

theorem exists_stop (accept : Letter → Bool) (text : List Letter) :
    ∃ front rest, text = front ++ rest ∧ (∀ letter ∈ front, accept letter = true) ∧
      ∀ letter ∈ rest.head?, accept letter = false := by
  refine ⟨text.takeWhile accept, text.dropWhile accept, (takeWhile_append_dropWhile).symm,
    fun letter => all_eq_true.mp all_takeWhile letter, ?_⟩
  intro letter isFirst
  have stops := List.head?_dropWhile_not accept text
  rw [mem_def.mp isFirst] at stops
  exact stops

theorem splitOnce_eq_some {separator : List Char} {text front rest : List Char}
    (split : splitOnce separator text = some (front, rest)) : text = front ++ separator ++ rest := by
  induction text generalizing front with
  | nil =>
    rw [splitOnce, ite_none_right_eq_some, some_inj, Prod.mk.injEq, List.isEmpty_iff] at split
    obtain ⟨rfl, rfl, rfl⟩ := split
    rfl
  | cons letter text ih =>
    rw [splitOnce] at split
    split at split
    next atStart =>
      obtain ⟨tail, isTail⟩ := isPrefixOf_iff_prefix.mp atStart
      rw [← isTail, drop_left, some_inj, Prod.mk.injEq] at split
      obtain ⟨rfl, rfl⟩ := split
      exact isTail.symm
    next =>
      obtain ⟨⟨later, tail⟩, isLater, same⟩ := map_eq_some_iff.mp split
      obtain ⟨rfl, rfl⟩ := Prod.mk.inj same
      rw [ih isLater]
      rfl

variable {first : Char}

theorem splitOnce_append {separator front rest : List Char} (free : first ∉ front) :
    splitOnce (first :: separator) (front ++ first :: separator ++ rest) = some (front, rest) := by
  induction front with
  | nil =>
    rw [nil_append, cons_append, splitOnce, if_pos]
    · simp
    · rw [← cons_append, isPrefixOf_iff_prefix]
      exact prefix_append _ _
  | cons letter front ih =>
    obtain ⟨differs, notLater⟩ := not_or.mp (fun either => free (mem_cons.mpr either))
    rw [append_assoc, cons_append, splitOnce, if_neg, ← append_assoc, ih notLater]
    · rfl
    · rw [isPrefixOf_cons_cons]
      simp [differs]

theorem splitOnce_eq_none {text : List Char} (free : first ∉ text) :
    splitOnce [first] text = none := by
  cases split : splitOnce [first] text with
  | none => rfl
  | some pieces =>
    rw [splitOnce_eq_some split] at free
    simp at free

theorem exists_splitOnce {text : List Char} (stands : first ∈ text) :
    ∃ front rest, first ∉ front ∧ text = front ++ first :: rest ∧
      splitOnce [first] text = some (front, rest) := by
  obtain ⟨front, rest, rfl, free⟩ := eq_append_cons_of_mem stands
  exact ⟨front, rest, free, rfl, by simpa using @splitOnce_append first [] front rest free⟩

end Pieces

/-- A letter, followed by letters, digits, `+`, `-` and `.`. -/
def IsScheme : List Char → Prop
  | [] => False
  | first :: others => first.isAlpha = true ∧
      ∀ letter ∈ others, letter.isAlphanum = true ∨ letter = '+' ∨ letter = '-' ∨ letter = '.'

def endsAuthority (letter : Char) : Bool := letter == '/' || letter == '?' || letter == '#'

/-- What follows the `://` of a URL: user information with the `@` that ends it, a host with its
brackets, a port with its colon, and the rest. -/
structure AuthorityParts where
  user : List Char
  host : List Char
  port : List Char
  rest : List Char

def AuthorityParts.text (parts : AuthorityParts) : List Char :=
  parts.user ++ (parts.host ++ parts.port) ++ parts.rest

/-- A host in brackets. -/
def IsBracketed (host : List Char) : Prop :=
  ∃ address, host = '[' :: (address ++ [']']) ∧ ']' ∉ address

def IsPort (port : List Char) : Prop := port = [] ∨ port.head? = some ':'

/-- How the splitter takes an authority apart: what follows a bracketed host it drops, whatever
that is. -/
structure AuthorityParts.Split (parts : AuthorityParts) : Prop where
  user : parts.user = [] ∨ parts.user.getLast? = some '@'
  bare : '@' ∉ parts.host ++ parts.port
  inside : ∀ letter ∈ parts.user ++ (parts.host ++ parts.port), endsAuthority letter = false
  rest : ∀ letter ∈ parts.rest.head?, endsAuthority letter = true
  host : IsBracketed parts.host ∨ parts.host.head? ≠ some '[' ∧ ':' ∉ parts.host ∧ IsPort parts.port

/-- An authority has nothing but a port after its host. -/
structure AuthorityParts.WellFormed (parts : AuthorityParts) : Prop extends parts.Split where
  port : IsPort parts.port

def withoutBrackets : List Char → List Char
  | '[' :: address => address.dropLast
  | host => host

theorem withoutBrackets_of_plain {host : List Char} (plain : host.head? ≠ some '[') :
    withoutBrackets host = host := by
  rw [withoutBrackets]
  rintro address rfl
  exact plain rfl

theorem withoutBrackets_of_bracketed (address : List Char) :
    withoutBrackets ('[' :: (address ++ [']'])) = address := by
  rw [withoutBrackets, dropLast_concat]

theorem not_bracket_of_plain {host port : List Char} (plain : host.head? ≠ some '[')
    (isPort : IsPort port) (address : List Char) : host ++ port = '[' :: address → False := by
  intro isBracketed
  rcases host with - | ⟨first, others⟩
  · rw [nil_append] at isBracketed
    rcases isPort with isNil | isColon
    · rw [isNil] at isBracketed
      cases isBracketed
    · rw [isBracketed] at isColon
      cases isColon
  · rw [cons_append, List.cons.injEq] at isBracketed
    rw [isBracketed.1] at plain
    exact plain rfl

def reducedHost (host : List Char) : List Char :=
  asciiLower ((withoutBrackets host).reverse.dropWhile (· == '.')).reverse

/-- A reduced host that is kept. -/
def IsKept (name : List Char) : Prop :=
  name ≠ [] ∧ name.length ≤ 253 ∧ ∀ letter ∈ name, isHostLetter letter = true
  deriving Decidable

section Splitter

/-- What the splitter takes for the host of an authority without user information. -/
def bareHost : List Char → Option (List Char)
  | '[' :: address => (splitOnce [']'] address).map Prod.fst
  | authority => some (authority.takeWhile (· != ':'))

/-- What the splitter takes for the authority of a remainder, without user information. -/
def authorityIn (remainder : List Char) : List Char :=
  let address := remainder.takeWhile fun letter =>
    letter != '/' && letter != '?' && letter != '#'
  (address.reverse.takeWhile (· != '@')).reverse

def hostIn (remainder : List Char) : Option (List Char) := bareHost (authorityIn remainder)

def keptHost (named : List Char) : Option String :=
  let host := asciiLower (named.reverse.dropWhile (· == '.')).reverse
  if !host.isEmpty && host.length ≤ 253 && host.all isHostLetter then
    some (String.ofList host)
  else
    none

variable {url : String} {remainder named : List Char} {parts : AuthorityParts}

theorem bareHost_of_plain {authority : List Char}
    (plain : ∀ address, authority = '[' :: address → False) :
    bareHost authority = some (authority.takeWhile (· != ':')) := by
  rw [bareHost]
  exact plain

theorem focusedSiteContext_eq : focusedSiteContext (some url) =
    (splitOnce "://".toList (trimmedLetters url)).bind fun split =>
      (hostIn split.2).bind keptHost := by
  simp only [focusedSiteContext, bind_eq_bind, bind_some]
  generalize splitOnce "://".toList (trimmedLetters url) = split
  cases split with
  | none => rfl
  | some pieces =>
    simp only [bind_some, hostIn, authorityIn]
    generalize ((pieces.2.takeWhile fun letter =>
      letter != '/' && letter != '?' && letter != '#').reverse.takeWhile (· != '@')).reverse =
        authority
    split
    next => rfl
    next plain =>
      rw [bareHost_of_plain plain]
      rfl

theorem keptHost_eq_some {site : String} : keptHost named = some site ↔
    IsKept (asciiLower (named.reverse.dropWhile (· == '.')).reverse) ∧
      site.toList = asciiLower (named.reverse.dropWhile (· == '.')).reverse := by
  rw [keptHost, ite_none_right_eq_some, some_inj, ← String.toList_inj, String.toList_ofList]
  exact and_congr (by simp [IsKept, and_assoc]) eq_comm

theorem endsAuthority_eq : (fun letter : Char => letter != '/' && letter != '?' && letter != '#') =
    fun letter => !endsAuthority letter := by
  ext letter
  simp [endsAuthority, bne]

theorem afterUser {user : List Char} (ends : user = [] ∨ user.getLast? = some '@')
    (bare : '@' ∉ named) : ((user ++ named).reverse.takeWhile (· != '@')).reverse = named := by
  have taken : (named.reverse ++ user.reverse).takeWhile (· != '@') = named.reverse := by
    apply takeWhile_append_stop
    · intro letter isLetter
      rw [bne_iff_ne]
      rintro rfl
      exact bare (mem_reverse.mp isLetter)
    · intro letter isFirst
      rw [List.head?_reverse] at isFirst
      rcases ends with rfl | isAt
      · cases isFirst
      · rw [isAt, mem_some_iff] at isFirst
        rw [← isFirst]
        rfl
  rw [reverse_append, taken, reverse_reverse]

theorem authorityIn_append {user authority rest : List Char}
    (ends : user = [] ∨ user.getLast? = some '@') (bare : '@' ∉ authority)
    (inside : ∀ letter ∈ user ++ authority, endsAuthority letter = false)
    (stops : ∀ letter ∈ rest.head?, endsAuthority letter = true) :
    authorityIn (user ++ authority ++ rest) = authority := by
  have address : (user ++ authority ++ rest).takeWhile (fun letter =>
      letter != '/' && letter != '?' && letter != '#') = user ++ authority := by
    rw [endsAuthority_eq]
    apply takeWhile_append_stop
    · intro letter isLetter
      rw [inside letter isLetter]
      rfl
    · intro letter isFirst
      rw [stops letter isFirst]
      rfl
  rw [authorityIn, address, afterUser ends bare]

theorem AuthorityParts.Split.authorityIn_text (split : parts.Split) :
    authorityIn parts.text = parts.host ++ parts.port :=
  authorityIn_append split.user split.bare split.inside split.rest

theorem hostIn_text (split : parts.Split) :
    hostIn parts.text = some (withoutBrackets parts.host) := by
  rw [hostIn, split.authorityIn_text]
  rcases split.host with ⟨inner, isHost, free⟩ | ⟨notBracket, free, isPort⟩
  · have closes := @splitOnce_append ']' [] inner parts.port free
    rw [append_assoc] at closes
    rw [isHost, cons_append, append_assoc, bareHost, closes, withoutBrackets_of_bracketed]
    rfl
  · have plain := not_bracket_of_plain notBracket isPort
    rw [bareHost_of_plain plain, withoutBrackets_of_plain notBracket, takeWhile_append_stop]
    · intro letter isLetter
      rw [bne_iff_ne]
      rintro rfl
      exact free isLetter
    · intro letter isFirst
      rcases isPort with isNil | isColon
      · rw [isNil] at isFirst
        cases isFirst
      · rw [isColon, mem_some_iff] at isFirst
        rw [← isFirst]
        rfl

/-- Where a host is read, the text is the one of its parts. -/
theorem exists_parts (found : hostIn remainder = some named) :
    ∃ parts : AuthorityParts, parts.Split ∧ remainder = parts.text ∧
      named = withoutBrackets parts.host := by
  obtain ⟨address, rest, rfl, inside, stops⟩ := exists_stop
    (fun letter : Char => !endsAuthority letter) remainder
  obtain ⟨authority, user, backwards, isBare, isUser⟩ :=
    exists_stop (fun letter : Char => letter != '@') address.reverse
  obtain rfl : address = user.reverse ++ authority.reverse := by
    rw [← reverse_append, ← backwards, reverse_reverse]
  have ends : user.reverse = [] ∨ user.reverse.getLast? = some '@' := by
    rw [List.getLast?_reverse]
    cases user with
    | nil => exact .inl rfl
    | cons last user => exact .inr (by simpa using isUser last rfl)
  have bare : '@' ∉ authority.reverse := by
    intro isAt
    simpa using isBare '@' (mem_reverse.mp isAt)
  have insideAuthority : ∀ letter ∈ user.reverse ++ authority.reverse,
      endsAuthority letter = false := by
    intro letter isLetter
    simpa using inside letter isLetter
  have restStops : ∀ letter ∈ rest.head?, endsAuthority letter = true := by
    intro letter isFirst
    simpa using stops letter isFirst
  rw [hostIn, authorityIn_append ends bare insideAuthority restStops] at found
  generalize authority.reverse = host at *
  by_cases bracketed : ∃ inner, host = '[' :: inner
  · obtain ⟨inner, rfl⟩ := bracketed
    rw [bareHost] at found
    by_cases closed : ']' ∈ inner
    · obtain ⟨front, port, free, rfl, closes⟩ := exists_splitOnce closed
      rw [closes, map_some, some_inj] at found
      obtain rfl : front = named := found
      have whole : '[' :: (front ++ [']']) ++ port = '[' :: (front ++ ']' :: port) := by simp
      refine ⟨⟨user.reverse, '[' :: (front ++ [']']), port, rest⟩, ⟨ends, ?_, ?_, restStops, ?_⟩,
        ?_, ?_⟩
      · rwa [whole]
      · rwa [whole]
      · exact .inl ⟨front, rfl, free⟩
      · rw [AuthorityParts.text, whole]
      · exact (withoutBrackets_of_bracketed front).symm
    · rw [splitOnce_eq_none closed] at found
      cases found
  · have plain : ∀ address, host = '[' :: address → False := fun address isBracketed =>
      bracketed ⟨address, isBracketed⟩
    obtain ⟨front, port, rfl, isName, isPort⟩ :=
      exists_stop (fun letter : Char => letter != ':') host
    have notBracket : front.head? ≠ some '[' := by
      intro isBracket
      rcases front with - | ⟨first, others⟩
      · cases isBracket
      · obtain rfl : first = '[' := by simpa using isBracket
        exact plain (others ++ port) rfl
    rw [bareHost_of_plain plain, takeWhile_append_stop isName isPort, some_inj] at found
    refine ⟨⟨user.reverse, front, port, rest⟩, ⟨ends, bare, insideAuthority, restStops, ?_⟩, rfl,
      ?_⟩
    · refine .inr ⟨notBracket, ?_, ?_⟩
      · intro isColon
        simpa using isName ':' isColon
      · rcases port with - | ⟨first, others⟩
        · exact .inl rfl
        · exact .inr (by simpa using isPort first rfl)
    · rw [withoutBrackets_of_plain notBracket, found]

end Splitter

section Reduction

/-- The host of a URL: of a scheme, `://` and a well-formed authority. -/
def HostOf (url site : String) : Prop :=
  ∃ scheme : List Char, ∃ parts : AuthorityParts, IsScheme scheme ∧ parts.WellFormed ∧
    trimmedLetters url = scheme ++ "://".toList ++ parts.text ∧
    site.toList = reducedHost parts.host

/-- Two URLs differ only in user information, port, path, query or fragment. -/
def SameHost (url other : String) : Prop :=
  ∃ scheme : List Char, ∃ parts others : AuthorityParts,
    IsScheme scheme ∧ parts.WellFormed ∧ others.WellFormed ∧ parts.host = others.host ∧
    trimmedLetters url = scheme ++ "://".toList ++ parts.text ∧
    trimmedLetters other = scheme ++ "://".toList ++ others.text

/-- A URL is reduced to its host, and to the same as every URL with that host. -/
structure ReducedToHost (url : String) : Prop where
  hostOf : ∀ site, focusedSiteContext (some url) = some site → HostOf url site
  sameHost : ∀ other, SameHost url other →
    focusedSiteContext (some url) = focusedSiteContext (some other)

/-- Where a host that can be kept follows the first `://`, a scheme stands before it, and the
host is all of its authority but for user information and a port. -/
def SchemeStandsBefore (url : String) : Prop :=
  ∀ front remainder, splitOnce "://".toList (trimmedLetters url) = some (front, remainder) →
    ∀ parts : AuthorityParts, parts.Split → remainder = parts.text →
      IsKept (reducedHost parts.host) → IsScheme front ∧ parts.WellFormed

variable {url other site : String} {scheme : List Char} {parts : AuthorityParts}

theorem IsScheme.colon_not_mem (isScheme : IsScheme scheme) : ':' ∉ scheme := by
  cases scheme with
  | nil => exact not_mem_nil
  | cons first others =>
    obtain ⟨isFirst, areOthers⟩ := isScheme
    intro isColon
    rcases mem_cons.mp isColon with rfl | later
    · exact absurd isFirst (by decide)
    · exact absurd (areOthers ':' later) (by decide)

theorem splitOnce_of_url (isScheme : IsScheme scheme)
    (isUrl : trimmedLetters url = scheme ++ "://".toList ++ parts.text) :
    splitOnce "://".toList (trimmedLetters url) = some (scheme, parts.text) := by
  have separator : "://".toList = ':' :: ['/', '/'] := by decide
  rw [isUrl, separator]
  exact splitOnce_append isScheme.colon_not_mem

theorem focusedSiteContext_of_split {front : List Char} (split : parts.Split)
    (isSplit : splitOnce "://".toList (trimmedLetters url) = some (front, parts.text)) :
    focusedSiteContext (some url) = keptHost (withoutBrackets parts.host) := by
  rw [focusedSiteContext_eq, isSplit, bind_some, hostIn_text split, bind_some]

theorem SameHost.eq (same : SameHost url other) :
    focusedSiteContext (some url) = focusedSiteContext (some other) := by
  obtain ⟨scheme, parts, others, isScheme, isParts, isOthers, sameHost, isUrl, isOther⟩ := same
  rw [focusedSiteContext_of_split isParts.toSplit (splitOnce_of_url isScheme isUrl),
    focusedSiteContext_of_split isOthers.toSplit (splitOnce_of_url isScheme isOther), sameHost]

theorem AuthorityParts.Split.isPort {others : AuthorityParts} (split : parts.Split)
    (wellFormed : others.WellFormed) (same : parts.text = others.text) : IsPort parts.port := by
  have sameAuthority : parts.host ++ parts.port = others.host ++ others.port := by
    rw [← split.authorityIn_text, same, wellFormed.toSplit.authorityIn_text]
  rcases split.host with ⟨inner, isHost, free⟩ | ⟨-, -, isPort⟩
  · rw [isHost, cons_append] at sameAuthority
    rcases wellFormed.host with ⟨otherInner, isOther, otherFree⟩ | ⟨notBracket, -, isPort⟩
    · -- Both brackets close at the first closing bracket.
      rw [isOther, cons_append, List.cons.injEq] at sameAuthority
      have closes := @splitOnce_append ']' [] inner parts.port free
      rw [sameAuthority.2, splitOnce_append otherFree, some_inj, Prod.mk.injEq] at closes
      exact closes.2 ▸ wellFormed.port
    · exact (not_bracket_of_plain notBracket isPort _ sameAuthority.symm).elim
  · exact isPort

/-- A URL is reduced to its host exactly where a scheme stands before what the splitter takes for
one, and nothing but user information and a port beside it. -/
theorem reducedToHost_iff : ReducedToHost url ↔ SchemeStandsBefore url := by
  constructor
  · intro reduced front remainder isSplit parts split isText isKept
    subst isText
    obtain ⟨site, isSite⟩ : ∃ site, keptHost (withoutBrackets parts.host) = some site :=
      ⟨String.ofList (reducedHost parts.host),
        keptHost_eq_some.mpr ⟨isKept, String.toList_ofList⟩⟩
    obtain ⟨scheme, others, isScheme, wellFormed, isUrl, -⟩ :=
      reduced.hostOf site ((focusedSiteContext_of_split split isSplit).trans isSite)
    have sameSplit := isSplit.symm.trans (splitOnce_of_url isScheme isUrl)
    obtain ⟨rfl, sameText⟩ := Prod.mk.inj (some_inj.mp sameSplit)
    exact ⟨isScheme, split, split.isPort wellFormed sameText⟩
  · intro stands
    refine ⟨?_, fun other same => same.eq⟩
    intro site isSite
    rw [focusedSiteContext_eq] at isSite
    obtain ⟨⟨front, remainder⟩, isSplit, found⟩ := bind_eq_some_iff.mp isSite
    obtain ⟨named, isNamed, kept⟩ := bind_eq_some_iff.mp found
    obtain ⟨parts, split, rfl, rfl⟩ := exists_parts isNamed
    obtain ⟨isKept, isHost⟩ := keptHost_eq_some.mp kept
    obtain ⟨isScheme, wellFormed⟩ := stands front parts.text isSplit parts split rfl isKept
    exact ⟨front, parts, isScheme, wellFormed, splitOnce_eq_some isSplit, isHost⟩

/-- A host in the query of a URL without an authority is taken for its site. -/
theorem query_is_taken_for_site :
    focusedSiteContext (some "mailto:a?x=http://evil.com/") = some "evil.com" ∧
      ¬ReducedToHost "mailto:a?x=http://evil.com/" := by
  have taken : focusedSiteContext (some "mailto:a?x=http://evil.com/") = some "evil.com" := by
    decide +kernel
  refine ⟨taken, ?_⟩
  intro reduced
  obtain ⟨scheme, parts, isScheme, -, isUrl, -⟩ := reduced.hostOf "evil.com" taken
  have split : (splitOnce "://".toList (trimmedLetters "mailto:a?x=http://evil.com/")).map
      Prod.fst = some "mailto:a?x=http".toList := by
    decide +kernel
  rw [splitOnce_of_url isScheme isUrl, map_some, some_inj] at split
  have free := isScheme.colon_not_mem
  rw [show scheme = "mailto:a?x=http".toList from split] at free
  exact free (by decide)

end Reduction

end Velvt.Rules
