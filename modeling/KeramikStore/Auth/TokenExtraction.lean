import KeramikStore.Auth.UseCases

/-!
# The refresh token of a request

The token is extracted from a request twice: once by the extractors that hand it to
the verification, and once more by the strategy, which passes it on to be looked up.
Both take the cookie before the body field and that before the header. But the header
is read differently: the extractor reads its first two words, whatever the case of the
first, and the strategy removes the text of the scheme with one space after it. What
follows from the documented behaviour of the extractors is proved.
-/

set_option autoImplicit false

namespace KeramikStore.RefreshTokenStrategy
open Library Library.Text

/-- A value that a request carries. A cookie or a field of the body need not be a
text; anything else only counts as present or not. -/
inductive Carried where
  | text (s : String)
  | other (present : Bool)
deriving DecidableEq, Repr

def Carried.truthy : Carried → Bool
  | .text s => s != ""
  | .other present => present

structure Request where
  cookie : String → Option Carried
  body : String → Option Carried
  authorization : Option String

def orElse (a b : Option Carried) : Option Carried :=
  if a.any Carried.truthy then a else b

def removeFirst (pattern : List Char) : List Char → List Char
  | [] => []
  | c :: cs =>
    if pattern.isPrefixOf (c :: cs) then (c :: cs).drop pattern.length
    else c :: removeFirst pattern cs

def scheme : List Char := "Bearer ".toList

structure ValidateRefreshTokenCommand (Payload : Type) where
  tokenPayload : Payload
  refreshToken : Option Carried
deriving DecidableEq

def incomingRefreshToken (req : Request) : Option Carried :=
  orElse (orElse (req.cookie "refreshToken") (req.body "refreshToken"))
    (req.authorization.map fun header => .text (String.ofList (removeFirst scheme header.toList)))

structure ExtractJwt where
  fromExtractors : List (Request → Option Carried) → Request → Option Carried
  fromBodyField : String → Request → Option Carried
  fromAuthHeaderAsBearerToken : Request → Option Carried

def schemeAndValue (header : List Char) : Option (List Char × List Char) :=
  let words := header.dropWhile isSpace
  let value := ((words.dropWhile fun c => !isSpace c).dropWhile isSpace).takeWhile
    fun c => !isSpace c
  if value = [] then none else some (words.takeWhile fun c => !isSpace c, value)

def bearerValue (header : List Char) : Option (List Char) :=
  (schemeAndValue header).bind fun parts =>
    if parts.1.map Char.toLower = "bearer".toList then some parts.2 else none

def bearerToken (req : Request) : Option Carried :=
  req.authorization.bind fun header =>
    (bearerValue header.toList).map fun value => .text (String.ofList value)

/-- The first extractor that yields a value is taken; the header is split at white
space, and its scheme compared without case. -/
structure ExtractJwt.Documented (jwt : ExtractJwt) : Prop where
  first : ∀ extractors req,
    jwt.fromExtractors extractors req = extractors.findSome? fun e => (e req).filter Carried.truthy
  field : ∀ name req, jwt.fromBodyField name req = req.body name
  bearer : ∀ req, jwt.fromAuthHeaderAsBearerToken req = bearerToken req

section Strategy

variable (jwt : ExtractJwt) {Payload : Type}

def jwtFromRequest (req : Request) : Option Carried :=
  jwt.fromExtractors [fun req => req.cookie "refreshToken", jwt.fromBodyField "refreshToken",
    jwt.fromAuthHeaderAsBearerToken] req

def validate (req : Request) (payload : Payload) : ValidateRefreshTokenCommand Payload :=
  ⟨payload, incomingRefreshToken req⟩

def authenticate (verify : Carried → Option Payload) (req : Request) :
    Option (Carried × ValidateRefreshTokenCommand Payload) := do
  let token ← jwtFromRequest jwt req
  let payload ← verify token
  return (token, validate req payload)

end Strategy

def Plain (cs : List Char) : Prop := ∀ c ∈ cs, isSpace c = false

def PlainlySpelled (req : Request) : Prop :=
  (req.cookie "refreshToken").any Carried.truthy = true ∨
    (req.body "refreshToken").any Carried.truthy = true ∨
    ∃ value, req.authorization = some ("Bearer " ++ value) ∧ Plain value.toList

/-! Texts without white space. -/

theorem plain_of_all (cs : List Char) (h : cs.all (fun c => !isSpace c) = true) : Plain cs :=
  fun c mem => (Bool.not_eq_true' _).mp (List.all_eq_true.mp h c mem)

theorem takeWhile_plain (a b : List Char) (plain : Plain a) :
    (a ++ ' ' :: b).takeWhile (fun c => !isSpace c) = a := by
  have space : (!isSpace ' ') = false := by decide
  rw [List.takeWhile_append_of_pos fun c mem => by rw [plain c mem, Bool.not_false],
    List.takeWhile_cons, space, if_neg Bool.false_ne_true, List.append_nil]

theorem dropWhile_plain (a b : List Char) (plain : Plain a) :
    (a ++ b).dropWhile (fun c => !isSpace c) = b.dropWhile fun c => !isSpace c :=
  List.dropWhile_append_of_pos fun c mem => by rw [plain c mem, Bool.not_false]

theorem dropWhile_isSpace_plain (a : List Char) (plain : Plain a) : a.dropWhile isSpace = a := by
  cases a with
  | nil => rfl
  | cons c a =>
    rw [List.dropWhile_cons, plain c List.mem_cons_self, if_neg Bool.false_ne_true]

theorem schemeAndValue_plain (a : List Char) (plain : Plain a) : schemeAndValue a = none := by
  have rest := dropWhile_plain a [] plain
  rw [List.append_nil] at rest
  rw [schemeAndValue, dropWhile_isSpace_plain a plain, rest]
  rfl

theorem schemeAndValue_two (a b : List Char) (some : a ≠ []) (ha : Plain a) (hb : Plain b) :
    schemeAndValue (a ++ ' ' :: b) = if b = [] then none else .some (a, b) := by
  have words : (a ++ ' ' :: b).dropWhile isSpace = a ++ ' ' :: b := by
    obtain ⟨c, cs, rfl⟩ := List.exists_cons_of_ne_nil some
    rw [List.cons_append, List.dropWhile_cons, ha c List.mem_cons_self,
      if_neg Bool.false_ne_true]
  have gap : (' ' :: b).dropWhile (fun c => !isSpace c) = ' ' :: b := rfl
  have behind : (' ' :: b).dropWhile isSpace = b := dropWhile_isSpace_plain b hb
  have value : b.takeWhile (fun c => !isSpace c) = b :=
    List.takeWhile_eq_self_iff.mpr fun c mem => by rw [hb c mem, Bool.not_false]
  rw [schemeAndValue, words, dropWhile_plain a _ ha, gap, behind, value, takeWhile_plain a b ha]

theorem schemeAndValue_some (header first second : List Char)
    (h : schemeAndValue header = some (first, second)) : Plain second ∧ second ≠ [] := by
  unfold schemeAndValue at h
  dsimp only at h
  split_ifs at h with empty
  obtain ⟨-, rfl⟩ := Prod.mk.inj (Option.some.inj h)
  refine ⟨fun c mem => ?_, empty⟩
  have := List.mem_takeWhile_imp mem
  rwa [Bool.not_eq_true'] at this

theorem bearerValue_some (header value : List Char) (h : bearerValue header = some value) :
    Plain value ∧ value ≠ [] ∧ ¬Plain header := by
  obtain ⟨⟨first, second⟩, split, accepted⟩ := Option.bind_eq_some_iff.mp h
  split_ifs at accepted
  obtain rfl := Option.some.inj accepted
  obtain ⟨plain, filled⟩ := schemeAndValue_some header first second split
  refine ⟨plain, filled, fun whole => ?_⟩
  rw [schemeAndValue_plain header whole] at split
  cases split

/-! The text that is removed. -/

theorem removeFirst_cases (p cs : List Char) :
    removeFirst p cs = cs ∨ ∃ x y, cs = x ++ p ++ y ∧ removeFirst p cs = x ++ y := by
  induction cs with
  | nil => exact .inl rfl
  | cons c cs ih =>
    rw [removeFirst]
    split_ifs with here
    · obtain ⟨rest, split⟩ := List.isPrefixOf_iff_prefix.mp here
      refine .inr ⟨[], rest, split.symm, ?_⟩
      rw [← split, List.drop_left, List.nil_append]
    · rcases ih with same | ⟨x, y, split, removed⟩
      · exact .inl (congrArg _ same)
      · exact .inr ⟨c :: x, y, by rw [split]; rfl, by rw [removed]; rfl⟩

theorem removeFirst_append (p cs : List Char) (some : p ≠ []) : removeFirst p (p ++ cs) = cs := by
  obtain ⟨d, ds, rfl⟩ := List.exists_cons_of_ne_nil some
  have here : (d :: ds).isPrefixOf (d :: (ds ++ cs)) = true :=
    List.isPrefixOf_iff_prefix.mpr (List.prefix_append (d :: ds) cs)
  rw [List.cons_append, removeFirst, if_pos here, ← List.cons_append, List.drop_left]

theorem scheme_eq : scheme = "Bearer".toList ++ [' '] := by decide

theorem scheme_plain : Plain "Bearer".toList := plain_of_all _ (by decide)

theorem scheme_append (cs : List Char) : scheme ++ cs = "Bearer".toList ++ ' ' :: cs := by
  rw [scheme_eq, List.append_assoc]
  rfl

/-- What the strategy leaves of the header has white space in it, unless the header is
the scheme, one space and a word. -/
theorem header_of_plain (header value : List Char) (h : bearerValue header = some value)
    (plain : Plain (removeFirst scheme header)) : header = scheme ++ removeFirst scheme header := by
  rcases removeFirst_cases scheme header with kept | ⟨x, y, split, removed⟩
  · exact absurd (kept ▸ plain) (bearerValue_some header value h).2.2
  · rw [removed] at plain ⊢
    have before : Plain x := fun c mem => plain c (List.mem_append_left y mem)
    have behind : Plain y := fun c mem => plain c (List.mem_append_right x mem)
    -- the first word of the header ends in the scheme, so it is as long only if it is it
    have first : Plain (x ++ "Bearer".toList) := fun c mem =>
      (List.mem_append.mp mem).elim (before c) (scheme_plain c)
    have whole : header = (x ++ "Bearer".toList) ++ ' ' :: y := by
      rw [split, List.append_assoc, scheme_append, List.append_assoc]
    rw [whole, bearerValue, schemeAndValue_two _ y (by simp) first behind] at h
    obtain ⟨parts, filled, accepted⟩ := Option.bind_eq_some_iff.mp h
    split_ifs at filled
    obtain rfl := Option.some.inj filled
    split_ifs at accepted with named
    have none : x = [] := by
      have length := congrArg List.length named
      rw [List.length_map, List.length_append] at length
      exact List.eq_nil_of_length_eq_zero (Nat.add_eq_right.mp length)
    rw [split, none, List.nil_append, List.nil_append]

/-- The header is read alike by both only if it is the scheme, one space and a word. -/
theorem removeFirst_eq_iff (header value : List Char) (h : bearerValue header = some value) :
    removeFirst scheme header = value ↔ header = scheme ++ value := by
  constructor
  · rintro rfl
    exact header_of_plain header _ h (bearerValue_some header _ h).1
  · rintro rfl
    exact removeFirst_append scheme value (by decide)

theorem bearerValue_scheme (word value : List Char) (plain : Plain word)
    (h : bearerValue (scheme ++ word) = some value) : word = value := by
  rw [scheme_append, bearerValue, schemeAndValue_two _ word (by decide) scheme_plain plain] at h
  obtain ⟨parts, filled, accepted⟩ := Option.bind_eq_some_iff.mp h
  split_ifs at filled
  obtain rfl := Option.some.inj filled
  split_ifs at accepted
  exact Option.some.inj accepted

/-! The two extractions. -/

theorem orElse_eq (a b : Option Carried) : orElse a b = (a.filter Carried.truthy).or b := by
  cases a with
  | none => rfl
  | some c => cases h : c.truthy <;> simp [orElse, Option.filter, h]

theorem filter_none_iff (a : Option Carried) :
    a.filter Carried.truthy = none ↔ ¬a.any Carried.truthy = true := by
  cases a with
  | none => simp
  | some c => cases h : c.truthy <;> simp [Option.filter, h]

theorem held_of_any (a : Option Carried) (h : a.any Carried.truthy = true) :
    ∃ c, a.filter Carried.truthy = some c :=
  Option.ne_none_iff_exists'.mp (mt (filter_none_iff a).mp (not_not.mpr h))

theorem bearerToken_filter (req : Request) :
    (bearerToken req).filter Carried.truthy = bearerToken req := by
  cases made : bearerToken req with
  | none => rfl
  | some c =>
    obtain ⟨header, -, yields⟩ := Option.bind_eq_some_iff.mp made
    obtain ⟨value, yielded, rfl⟩ := Option.map_eq_some_iff.mp yields
    obtain ⟨-, filled, -⟩ := bearerValue_some _ value yielded
    simp [Option.filter, Carried.truthy, filled]

theorem jwtFromRequest_eq (jwt : ExtractJwt) (documented : jwt.Documented) (req : Request) :
    jwtFromRequest jwt req = ((req.cookie "refreshToken").filter Carried.truthy).or
      (((req.body "refreshToken").filter Carried.truthy).or (bearerToken req)) := by
  have first (f : (Request → Option Carried) → Option Carried) (a b c : Request → Option Carried) :
      [a, b, c].findSome? f = (f a).or ((f b).or (f c)) := by
    cases ha : f a <;> cases hb : f b <;> cases hc : f c <;> simp [ha, hb, hc]
  rw [jwtFromRequest, documented.first, first, documented.field, documented.bearer,
    bearerToken_filter]

theorem incomingRefreshToken_eq (req : Request) :
    incomingRefreshToken req = ((req.cookie "refreshToken").filter Carried.truthy).or
      (((req.body "refreshToken").filter Carried.truthy).or (req.authorization.map fun header =>
        .text (String.ofList (removeFirst scheme header.toList)))) := by
  rw [incomingRefreshToken, orElse_eq, orElse_eq]
  cases cookie : (req.cookie "refreshToken").filter Carried.truthy with
  | none => rfl
  | some c =>
    obtain ⟨-, truthy⟩ := Option.filter_eq_some_iff.mp cookie
    have kept : (some c).filter Carried.truthy = some c := by simp [Option.filter, truthy]
    rw [Option.some_or, kept]
    rfl

/-- The two readings of the header agree just when it is the scheme, one space and a word. -/
theorem header_iff (req : Request) (token : Carried) (extracted : bearerToken req = some token) :
    (req.authorization.map fun header =>
        Carried.text (String.ofList (removeFirst scheme header.toList))) = some token ↔
      ∃ value, req.authorization = some ("Bearer " ++ value) ∧ Plain value.toList := by
  obtain ⟨header, authorization, yields⟩ := Option.bind_eq_some_iff.mp extracted
  obtain ⟨value, yielded, rfl⟩ := Option.map_eq_some_iff.mp yields
  rw [authorization, Option.map_some, Option.some.injEq, Carried.text.injEq, String.ofList_inj,
    removeFirst_eq_iff _ value yielded]
  constructor
  · intro spelled
    refine ⟨String.ofList value, congrArg some (String.toList_inj.mp ?_), ?_⟩
    · rw [spelled, String.toList_append]
      exact congrArg (scheme ++ ·) String.toList_ofList.symm
    · rw [String.toList_ofList]
      exact (bearerValue_some _ value yielded).1
  · rintro ⟨word, spelled, plain⟩
    have whole : header.toList = scheme ++ word.toList := by
      rw [Option.some.inj spelled, String.toList_append]
      rfl
    rw [whole] at yielded ⊢
    rw [bearerValue_scheme _ value plain yielded]

theorem authenticate_some (jwt : ExtractJwt) (documented : jwt.Documented) {Payload : Type}
    (verify : Carried → Option Payload) (req : Request) (token : Carried)
    (command : ValidateRefreshTokenCommand Payload)
    (authenticated : authenticate jwt verify req = some (token, command)) :
    ((req.cookie "refreshToken").filter Carried.truthy).or
        (((req.body "refreshToken").filter Carried.truthy).or (bearerToken req)) = some token ∧
      command.refreshToken = ((req.cookie "refreshToken").filter Carried.truthy).or
        (((req.body "refreshToken").filter Carried.truthy).or (req.authorization.map fun header =>
          .text (String.ofList (removeFirst scheme header.toList)))) := by
  obtain ⟨_, extracted, rest⟩ := Option.bind_eq_some_iff.mp authenticated
  obtain ⟨payload, verified, made⟩ := Option.bind_eq_some_iff.mp rest
  obtain ⟨rfl, rfl⟩ := Prod.mk.inj (Option.some.inj made)
  rw [jwtFromRequest_eq jwt documented] at extracted
  exact ⟨extracted, incomingRefreshToken_eq req⟩

/-- The token that is verified is the one that is passed on just when it is plainly
spelled. -/
theorem validated_token_iff (jwt : ExtractJwt) (documented : jwt.Documented) {Payload : Type}
    (verify : Carried → Option Payload) (req : Request) (token : Carried)
    (command : ValidateRefreshTokenCommand Payload)
    (authenticated : authenticate jwt verify req = some (token, command)) :
    command.refreshToken = some token ↔ PlainlySpelled req := by
  obtain ⟨extracted, passes⟩ := authenticate_some jwt documented verify req token command
    authenticated
  rw [passes, PlainlySpelled]
  by_cases cookie : (req.cookie "refreshToken").any Carried.truthy = true
  · obtain ⟨c, held⟩ := held_of_any _ cookie
    rw [held, Option.some_or] at extracted ⊢
    exact iff_of_true extracted (.inl cookie)
  · by_cases body : (req.body "refreshToken").any Carried.truthy = true
    · obtain ⟨c, held⟩ := held_of_any _ body
      rw [(filter_none_iff _).mpr cookie, Option.none_or, held, Option.some_or] at extracted ⊢
      exact iff_of_true extracted (.inr (.inl body))
    · rw [(filter_none_iff _).mpr cookie, (filter_none_iff _).mpr body, Option.none_or,
        Option.none_or] at extracted ⊢
      rw [or_iff_right cookie, or_iff_right body]
      exact header_iff req token extracted

def ExtractJwt.sample : ExtractJwt where
  fromExtractors extractors req := extractors.findSome? fun e => (e req).filter Carried.truthy
  fromBodyField name req := req.body name
  fromAuthHeaderAsBearerToken := bearerToken

theorem ExtractJwt.sample_documented : ExtractJwt.sample.Documented where
  first _ _ := rfl
  field _ _ := rfl
  bearer _ := rfl

def headerRequest (header : String) : Request := ⟨fun _ => none, fun _ => none, some header⟩

theorem sample_token_is_validated :
    ∃ token command, authenticate .sample (fun _ => some ()) (headerRequest "Bearer t0") =
        some (token, command) ∧ command.refreshToken = some token := by
  obtain ⟨command, authenticated⟩ : ∃ command, authenticate .sample (fun _ => some ())
      (headerRequest "Bearer t0") = some (.text "t0", command) :=
    ⟨⟨(), some (.text "t0")⟩, by decide⟩
  exact ⟨_, command, authenticated, (validated_token_iff .sample ExtractJwt.sample_documented
    (fun _ => some ()) (headerRequest "Bearer t0") (.text "t0") command authenticated).mpr
      (.inr (.inr ⟨"t0", by decide, plain_of_all _ (by decide)⟩))⟩

/-- A scheme in small letters is accepted by the extractor and not removed. -/
theorem small_scheme_is_passed_on :
    ExtractJwt.sample.Documented ∧
      ∃ token command,
        authenticate .sample (fun _ => some ()) (headerRequest "bearer t0") =
          some (token, command) ∧
        token = .text "t0" ∧ command.refreshToken = some (.text "bearer t0") ∧
        command.refreshToken ≠ some token := by
  refine ⟨ExtractJwt.sample_documented, .text "t0", ⟨(), some (.text "bearer t0")⟩, ?_⟩
  exact ⟨by decide, rfl, rfl, by decide⟩

/-- A token that the user does not have ends all sessions. -/
theorem unknown_token_revokes (token : String) (clk : Clock) (u : AuthUser)
    (can : u.ensureCanRefreshToken = .ok ()) (unknown : u.hasRefreshToken token = false) :
    (UseCases.validateRefreshToken "REFRESH_TOKEN" token clk (some u)).2 =
      some (u.revokeAllRefreshTokens clk).state := by
  have same : ("REFRESH_TOKEN" != "REFRESH_TOKEN") = false := by decide
  unfold UseCases.validateRefreshToken
  dsimp only
  rw [same, if_neg Bool.false_ne_true, can]
  dsimp only
  rw [unknown, if_neg Bool.false_ne_true]

/-- A token that is passed on with more than itself is not among the user's, so all
sessions of the user end. -/
theorem misread_token_revokes (jwt : ExtractJwt) (documented : jwt.Documented) {Payload : Type}
    (verify : Carried → Option Payload) (req : Request) (token : Carried)
    (command : ValidateRefreshTokenCommand Payload) (clk : Clock) (u : AuthUser)
    (authenticated : authenticate jwt verify req = some (token, command))
    (misspelt : ¬PlainlySpelled req) (can : u.ensureCanRefreshToken = .ok ())
    (tokens : ∀ t ∈ u.refreshTokens, Plain t.toList) :
    ∃ passed, command.refreshToken = some (.text passed) ∧
      (UseCases.validateRefreshToken "REFRESH_TOKEN" passed clk (some u)).2 =
        some (u.revokeAllRefreshTokens clk).state := by
  obtain ⟨cookie, others⟩ := not_or.mp misspelt
  obtain ⟨body, header⟩ := not_or.mp others
  obtain ⟨extracted, passes⟩ := authenticate_some jwt documented verify req token command
    authenticated
  rw [(filter_none_iff _).mpr cookie, (filter_none_iff _).mpr body, Option.none_or,
    Option.none_or] at extracted passes
  obtain ⟨text, authorization, yields⟩ := Option.bind_eq_some_iff.mp extracted
  obtain ⟨value, yielded, rfl⟩ := Option.map_eq_some_iff.mp yields
  rw [authorization, Option.map_some] at passes
  refine ⟨_, passes, unknown_token_revokes _ clk u can ?_⟩
  refine Bool.eq_false_iff.mpr fun known => header ?_
  have plain := tokens _ (List.contains_iff_mem.mp known)
  rw [String.toList_ofList] at plain
  refine ⟨String.ofList (removeFirst scheme text.toList), ?_, by rwa [String.toList_ofList]⟩
  rw [authorization, Option.some.injEq, ← String.toList_inj, String.toList_append]
  have spelled := header_of_plain _ value yielded plain
  exact spelled.trans (congrArg (scheme ++ ·) String.toList_ofList.symm)

end KeramikStore.RefreshTokenStrategy
