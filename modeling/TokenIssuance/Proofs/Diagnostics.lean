import Mathlib.Data.List.Basic
import TokenIssuance.Text.Scan
import TokenIssuance.Vault.Auth
import TokenIssuance.Vault.Http

set_option autoImplicit false

namespace TokenIssuance

namespace Text

def unescape? : List Char → Option (Char × List Char)
  | '0' :: rest => some ('\x00', rest)
  | 't' :: rest => some ('\t', rest)
  | 'r' :: rest => some ('\r', rest)
  | 'n' :: rest => some ('\n', rest)
  | '\\' :: rest => some ('\\', rest)
  | '\x22' :: rest => some ('\x22', rest)
  | 'u' :: '{' :: rest =>
      some (Char.ofNat (numberIn 16 (rest.takeWhile (· != '}'))), (rest.dropWhile (· != '}')).tail)
  | _ => none

def unquoteChar? : List Char → Option (Char × List Char)
  | [] => none
  | '\x22' :: _ => none
  | '\\' :: rest => unescape? rest
  | c :: rest => some (c, rest)

theorem hex_digit_value (n : Nat) (small : n < 16) : digitValue n.digitChar = n := by
  decide +revert

theorem number_in_append (base : Nat) (digits : List Char) (last : Char) :
    numberIn base (digits ++ [last]) = numberIn base digits * base + digitValue last := by
  simp [numberIn]

theorem hex_digits_step (n : Nat) (large : 16 ≤ n) :
    hexDigits n = hexDigits (n / 16) ++ [(n % 16).digitChar] :=
  Nat.toDigits_of_base_le (by decide) large

theorem hex_digits_number (n : Nat) : numberIn 16 (hexDigits n) = n := by
  induction n using Nat.strongRecOn with
  | ind n ih =>
      by_cases small : n < 16
      · simp [hexDigits, Nat.toDigits_of_lt_base small, numberIn, hex_digit_value n small]
      · rw [hex_digits_step n (by omega), number_in_append, ih (n / 16) (by omega),
          hex_digit_value (n % 16) (by omega)]
        omega

theorem hex_digits_unbraced (n : Nat) (c : Char) (member : c ∈ hexDigits n) : c ≠ '}' := by
  induction n using Nat.strongRecOn with
  | ind n ih =>
      by_cases small : n < 16
      · have only : c = n.digitChar := by
          simpa [hexDigits, Nat.toDigits_of_lt_base small] using member
        rw [only]
        exact Nat.digitChar_ne '}' (by decide)
      · rw [hex_digits_step n (by omega), List.mem_append] at member
        rcases member with earlier | last
        · exact ih (n / 16) (by omega) earlier
        · rw [List.mem_singleton.mp last]
          exact Nat.digitChar_ne '}' (by decide)

theorem unescape_code (c : Char) (rest : List Char) :
    unescape? ('u' :: '{' :: (hexDigits c.toNat ++ '}' :: rest)) = some (c, rest) := by
  have inside : ∀ digit ∈ hexDigits c.toNat, (digit != '}') = true := by
    intro digit member
    simpa using hex_digits_unbraced c.toNat digit member
  simp [unescape?, List.takeWhile_append_of_pos inside, List.dropWhile_append_of_pos inside,
    hex_digits_number]

theorem unquote_quoted_char (c : Char) (rest : List Char) :
    unquoteChar? (quotedChar c ++ rest) = some (c, rest) := by
  unfold quotedChar
  split_ifs with zero tab feed line slash quote hidden
  · rw [zero]; rfl
  · rw [tab]; rfl
  · rw [feed]; rfl
  · rw [line]; rfl
  · rw [slash]; rfl
  · rw [quote]; rfl
  · simpa [unquoteChar?] using unescape_code c rest
  · simp [unquoteChar?]

theorem unquote_closing (rest : List Char) : unquoteChar? ('\x22' :: rest) = none := rfl

-- The induction is on one of the texts; each step reads the same character off both.
theorem quoted_chars_then (cs ds x y : List Char)
    (same : cs.flatMap quotedChar ++ '\x22' :: x = ds.flatMap quotedChar ++ '\x22' :: y) :
    cs = ds ∧ x = y := by
  induction cs generalizing ds with
  | nil =>
      cases ds with
      | nil => simpa using same
      | cons d ds =>
          have next := congrArg unquoteChar? same
          simp [List.append_assoc, unquote_quoted_char, unquote_closing] at next
  | cons c cs ih =>
      have next := congrArg unquoteChar? same
      cases ds with
      | nil => simp [List.append_assoc, unquote_quoted_char, unquote_closing] at next
      | cons d ds =>
          simp only [List.flatMap_cons, List.append_assoc, unquote_quoted_char, Option.some.injEq,
            Prod.mk.injEq] at next
          obtain ⟨head, tail⟩ := next
          obtain ⟨later, left⟩ := ih ds tail
          exact ⟨by rw [head, later], left⟩

theorem quoted_then_iff (a b : String) (x y : List Char) :
    (quoted a).toList ++ x = (quoted b).toList ++ y ↔ a = b ∧ x = y := by
  constructor
  · intro same
    simp only [quoted, String.toList_ofList, List.cons_append, List.append_assoc, List.nil_append,
      List.cons.injEq, true_and] at same
    obtain ⟨text, left⟩ := quoted_chars_then _ _ _ _ same
    exact ⟨String.toList_inj.mp text, left⟩
  · intro ⟨text, left⟩
    rw [text, left]

def quotedAfter (texts : List String) : List Char :=
  texts.flatMap fun text => ',' :: ' ' :: (quoted text).toList

def quotedList (texts : List String) : List Char := (", ".intercalate (texts.map quoted)).toList

theorem quoted_list_cons (text : String) (texts : List String) :
    quotedList (text :: texts) = (quoted text).toList ++ quotedAfter texts := by
  induction texts generalizing text with
  | nil => simp [quotedList, quotedAfter]
  | cons other texts ih =>
      have next := ih other
      simp only [quotedList, String.toList_intercalate, List.map_cons] at next ⊢
      rw [List.intercalate_cons_cons, next]
      simp [quotedAfter]

theorem quoted_after_then (texts others : List String) (x y : List Char)
    (same : quotedAfter texts ++ ']' :: x = quotedAfter others ++ ']' :: y) :
    texts = others ∧ x = y := by
  induction texts generalizing others with
  | nil =>
      cases others with
      | nil => simpa [quotedAfter] using same
      | cons other others => simp [quotedAfter] at same
  | cons text texts ih =>
      cases others with
      | nil => simp [quotedAfter] at same
      | cons other others =>
          simp only [quotedAfter, List.flatMap_cons, List.cons_append, List.append_assoc,
            List.cons.injEq, true_and, quoted_then_iff] at same
          obtain ⟨head, tail⟩ := same
          obtain ⟨later, left⟩ := ih others tail
          exact ⟨by rw [head, later], left⟩

theorem quoted_list_then (texts others : List String) (x y : List Char)
    (same : quotedList texts ++ ']' :: x = quotedList others ++ ']' :: y) :
    texts = others ∧ x = y := by
  cases texts with
  | nil =>
      cases others with
      | nil => simpa [quotedList] using same
      | cons other others =>
          rw [quoted_list_cons] at same
          simp [quotedList, quoted] at same
  | cons text texts =>
      cases others with
      | nil =>
          rw [quoted_list_cons] at same
          simp [quotedList, quoted] at same
      | cons other others =>
          rw [quoted_list_cons, quoted_list_cons, List.append_assoc, List.append_assoc,
            quoted_then_iff] at same
          obtain ⟨head, tail⟩ := same
          obtain ⟨later, left⟩ := quoted_after_then texts others x y tail
          exact ⟨by rw [head, later], left⟩

end Text

namespace HttpRequest

def headerNames (request : HttpRequest) : List String := request.headers.map (·.1)

theorem diagnostic_chars (request : HttpRequest) :
    request.diagnostic.toList =
      "HttpRequest \x7b url: ".toList ++ ((Text.quoted request.url).toList ++
        (", headers: [".toList ++ (Text.quotedList request.headerNames ++
          ']' :: ", .. \x7d".toList))) := by
  unfold diagnostic headerNames
  simp [Text.quotedList, Function.comp_def]

theorem diagnostic_iff (request other : HttpRequest) :
    request.diagnostic = other.diagnostic ↔
      request.url = other.url ∧ request.headerNames = other.headerNames := by
  rw [← String.toList_inj, diagnostic_chars, diagnostic_chars]
  constructor
  · intro same
    obtain ⟨url, rest⟩ := (Text.quoted_then_iff _ _ _ _).mp (List.append_cancel_left same)
    exact ⟨url, (Text.quoted_list_then _ _ _ _ (List.append_cancel_left rest)).1⟩
  · intro ⟨url, names⟩
    rw [url, names]

end HttpRequest

namespace VaultAuth

inductive SamePublic : VaultAuth → VaultAuth → Prop where
  | token (own other : String) : SamePublic (.token own) (.token other)
  | appRole (roleId : String) {secretId otherSecret : Option String}
      (set : secretId.isSome = otherSecret.isSome) :
      SamePublic (.appRole roleId secretId) (.appRole roleId otherSecret)

def secretText (set : Bool) : String := if set then "Some(" ++ redacted ++ ")" else "None"

theorem secret_text_inj (set other : Bool) (same : secretText set = secretText other) :
    set = other := by
  have first := congrArg (·.toList.head?) same
  cases set <;> cases other <;> simp [secretText] at first ⊢

theorem app_role_chars (roleId : String) (secretId : Option String) :
    (VaultAuth.appRole roleId secretId).diagnostic.toList =
      "AppRole \x7b role_id: ".toList ++ ((Text.quoted roleId).toList ++
        (", secret_id: ".toList ++ ((secretText secretId.isSome).toList ++ " \x7d".toList))) := by
  unfold diagnostic
  cases secretId <;> simp [secretText]

theorem diagnostic_methods (token roleId : String) (secretId : Option String) :
    (VaultAuth.token token).diagnostic ≠ (VaultAuth.appRole roleId secretId).diagnostic := by
  intro same
  unfold diagnostic at same
  have first := congrArg (·.toList.head?) same
  simp at first

theorem diagnostic_iff (auth other : VaultAuth) :
    auth.diagnostic = other.diagnostic ↔ auth.SamePublic other := by
  constructor
  · intro same
    cases auth with
    | token own =>
        cases other with
        | token token => exact .token own token
        | appRole roleId secretId => exact absurd same (diagnostic_methods own roleId secretId)
    | appRole roleId secretId =>
        cases other with
        | token token => exact absurd same.symm (diagnostic_methods token roleId secretId)
        | appRole otherRole otherSecret =>
            rw [← String.toList_inj, app_role_chars, app_role_chars] at same
            obtain ⟨role, rest⟩ := (Text.quoted_then_iff _ _ _ _).mp (List.append_cancel_left same)
            have secret := List.append_cancel_right (List.append_cancel_left rest)
            rw [role]
            exact .appRole otherRole (secret_text_inj _ _ (String.toList_inj.mp secret))
  · intro same
    cases same with
    | token own other => rfl
    | appRole roleId set => rw [← String.toList_inj, app_role_chars, app_role_chars, set]

end VaultAuth

theorem diagnostics_show_public_part :
    (∀ request other : HttpRequest, request.diagnostic = other.diagnostic ↔
      request.url = other.url ∧ request.headerNames = other.headerNames) ∧
    ∀ auth other : VaultAuth, auth.diagnostic = other.diagnostic ↔ auth.SamePublic other :=
  ⟨HttpRequest.diagnostic_iff, VaultAuth.diagnostic_iff⟩

end TokenIssuance
