import Mathlib.Data.List.Infix
import Segmentation.Database.Pool

namespace Segmentation.Database.Address

def withPassword (scheme user password rest : String) : String :=
  scheme ++ "://" ++ user ++ ":" ++ password ++ "@" ++ rest

theorem splitFirst_schemeEnd {scheme : List Char} (h : ¬schemeEnd <:+: scheme)
    (rest : List Char) :
    Text.splitFirst schemeEnd (scheme ++ schemeEnd ++ rest) = some (scheme, rest) := by
  induction scheme with
  | nil => rfl
  | cons c tail ih =>
    rw [List.infix_cons_iff, not_or] at h
    have hstart : ¬schemeEnd.isPrefixOf (c :: (tail ++ schemeEnd ++ rest)) := by
      match tail, h.1 with
      | [], _ => simp [schemeEnd, List.isPrefixOf]
      | [d], _ => simp [schemeEnd, List.isPrefixOf]
      | d :: e :: tail, hprefix => simpa [schemeEnd] using hprefix
    rw [List.cons_append, List.cons_append, Text.splitFirst, if_neg hstart, ih h.2]
    rfl

variable {s scheme user host rest : List Char}

theorem hideChars_of_no_scheme (h : ¬schemeEnd <:+: s) : hideChars s = s := by
  rw [hideChars, (Text.splitFirst_eq_none_iff (by decide)).2 h]

theorem hideChars_of_not_mem (hscheme : ¬schemeEnd <:+: scheme) (hrest : '@' ∉ rest) :
    hideChars (scheme ++ schemeEnd ++ rest) = scheme ++ schemeEnd ++ rest := by
  simp only [hideChars, splitFirst_schemeEnd hscheme, Text.splitLast_eq_none_iff.2 hrest]

theorem hideChars_of_no_password (hscheme : ¬schemeEnd <:+: scheme) (huser : ':' ∉ user)
    (hhost : '@' ∉ host) :
    hideChars (scheme ++ schemeEnd ++ (user ++ '@' :: host)) =
      scheme ++ schemeEnd ++ (user ++ '@' :: host) := by
  have hnone : Text.splitFirst [':'] user = none :=
    (Text.splitFirst_eq_none_iff (by decide)).2 (mt (List.singleton_infix_iff _ _).1 huser)
  simp only [hideChars, splitFirst_schemeEnd hscheme, Text.splitLast_append hhost, hnone]

theorem hideChars_of_secret (hscheme : ¬schemeEnd <:+: scheme) (huser : ':' ∉ user)
    (hhost : '@' ∉ host) (secret : List Char) :
    hideChars (scheme ++ schemeEnd ++ (user ++ ':' :: secret ++ '@' :: host)) =
      scheme ++ schemeEnd ++ user ++ [':'] ++ hidden ++ ['@'] ++ host :=
  (hideChars_of_parts (splitFirst_schemeEnd hscheme _) (Text.splitLast_append hhost _)
    (Text.splitFirst_append huser secret)).2

theorem hideChars_congr (hscheme : ¬schemeEnd <:+: scheme) (huser : ':' ∉ user)
    (password password' : List Char) :
    hideChars (scheme ++ schemeEnd ++ (user ++ ':' :: password ++ '@' :: rest)) =
      hideChars (scheme ++ schemeEnd ++ (user ++ ':' :: password' ++ '@' :: rest)) := by
  -- An `@` in what follows the password makes all up to the last one part of the secret.
  cases hsplit : Text.splitLast '@' rest with
  | none =>
    have hhost := Text.splitLast_eq_none_iff.1 hsplit
    rw [hideChars_of_secret hscheme huser hhost, hideChars_of_secret hscheme huser hhost]
  | some parts =>
    obtain ⟨before, host⟩ := parts
    have hhost := Text.not_mem_of_splitLast hsplit
    have hsecret := hideChars_of_secret hscheme huser hhost
    have hregroup (secret : List Char) : user ++ ':' :: secret ++ '@' :: rest =
        user ++ ':' :: (secret ++ '@' :: before) ++ '@' :: host := by
      rw [Text.eq_of_splitLast hsplit]
      simp
    rw [hregroup, hregroup, hsecret, hsecret]

theorem hideChars_hideChars (s : List Char) : hideChars (hideChars s) = hideChars s := by
  cases hs : Text.splitFirst schemeEnd s with
  | none => simp only [hideChars, hs]
  | some parts =>
    obtain ⟨scheme, rest⟩ := parts
    cases hr : Text.splitLast '@' rest with
    | none => simp only [hideChars, hs, hr]
    | some parts =>
      obtain ⟨credentials, host⟩ := parts
      cases hc : Text.splitFirst [':'] credentials with
      | none => simp only [hideChars, hs, hr, hc]
      | some parts =>
        obtain ⟨user, password⟩ := parts
        have hscheme := Text.not_infix_of_splitFirst (by decide) hs
        have huser : ':' ∉ user := fun h =>
          Text.not_infix_of_splitFirst (by decide) hc ((List.singleton_infix_iff _ _).2 h)
        have hhost := Text.not_mem_of_splitLast hr
        have hsecret := hideChars_of_secret hscheme huser hhost hidden
        rw [(hideChars_of_parts hs hr hc).2]
        simpa using hsecret

theorem toList_withPassword (scheme user password rest : String) :
    (withPassword scheme user password rest).toList = scheme.toList ++ schemeEnd ++
      (user.toList ++ ':' :: password.toList ++ '@' :: rest.toList) := by
  simp [withPassword, schemeEnd]

theorem url_of_connect {answers : Target → Bool} {settings : Configuration.Pool} {pool : Pool}
    {shown : String} (h : Pool.connect answers settings = .ok (pool, shown)) :
    shown = hidePassword settings.url := by
  rw [Pool.connect] at h
  cases htarget : Target.ofAddress? settings.url with
  | none => simp [htarget] at h
  | some target =>
    simp only [htarget] at h
    split at h
    · cases h
    · split at h
      · cases h
      · cases h
        rfl

/-- Two addresses that differ in nothing but the password are shown alike, whatever separators the
passwords hold, and so are two pools that are opened to them; where only the host follows, stars
stand in the place of the password. What is shown does not change when it is shown again. An address
without a scheme, without an `@` behind it or without a colon in between is shown as it is. -/
theorem passwords_are_hidden :
    (∀ scheme user rest password password' : String,
      ¬schemeEnd <:+: scheme.toList → ':' ∉ user.toList →
      hidePassword (withPassword scheme user password rest) =
        hidePassword (withPassword scheme user password' rest) ∧
      ('@' ∉ rest.toList → hidePassword (withPassword scheme user password rest) =
        withPassword scheme user "***" rest) ∧
      ∀ answers (settings : Configuration.Pool) pool pool' shown shown',
        Pool.connect answers { settings with url := withPassword scheme user password rest } =
          .ok (pool, shown) →
        Pool.connect answers { settings with url := withPassword scheme user password' rest } =
          .ok (pool', shown') → shown = shown') ∧
    (∀ address, hidePassword (hidePassword address) = hidePassword address) ∧
    (∀ address : String, ¬schemeEnd <:+: address.toList → hidePassword address = address) ∧
    ∀ scheme : String, ¬schemeEnd <:+: scheme.toList →
      (∀ rest : String, '@' ∉ rest.toList →
        hidePassword (scheme ++ "://" ++ rest) = scheme ++ "://" ++ rest) ∧
      ∀ user host : String, ':' ∉ user.toList → '@' ∉ host.toList →
        hidePassword (scheme ++ "://" ++ user ++ "@" ++ host) =
          scheme ++ "://" ++ user ++ "@" ++ host := by
  have same {address : String} (h : hideChars address.toList = address.toList) :
      hidePassword address = address := by
    rw [hidePassword, h, String.ofList_toList]
  refine ⟨?_, ?_, ?_, ?_⟩
  · intro scheme user rest password password' hscheme huser
    have hcongr : hidePassword (withPassword scheme user password rest) =
        hidePassword (withPassword scheme user password' rest) := by
      rw [hidePassword, hidePassword, toList_withPassword, toList_withPassword]
      exact congrArg String.ofList (hideChars_congr hscheme huser _ _)
    refine ⟨hcongr, fun hrest => ?_, ?_⟩
    · rw [hidePassword, toList_withPassword, hideChars_of_secret hscheme huser hrest,
        ← String.toList_inj, String.toList_ofList, toList_withPassword]
      simp [hidden]
    · intro answers settings pool pool' shown shown' h h'
      rw [url_of_connect h, url_of_connect h']
      exact hcongr
  · intro address
    rw [hidePassword, hidePassword, String.toList_ofList, hideChars_hideChars]
  · intro address h
    exact same (hideChars_of_no_scheme h)
  · intro scheme hscheme
    refine ⟨fun rest hrest => same ?_, fun user host huser hhost => same ?_⟩
    · simpa [schemeEnd] using hideChars_of_not_mem hscheme hrest
    · simpa [schemeEnd] using hideChars_of_no_password hscheme huser hhost

def smallPool : Configuration.Pool :=
  ⟨"", 1, 0, 30, 600⟩

theorem passwords_are_hidden_withSeparators :
    let address (password : String) := withPassword "postgres" "crm" password "localhost/crm_db"
    let open? (password : String) :=
      Pool.connect (fun _ => true) { smallPool with url := address password }
    (¬schemeEnd <:+: "postgres".toList ∧ ':' ∉ "crm".toList ∧
      '@' ∉ "localhost/crm_db".toList ∧ (open? "s3cret").isOk ∧ (open? "a@b:c").isOk) ∧
    hidePassword (address "a@b:c") = address "***" ∧
    hidePassword (address "a@b://c") = hidePassword (address "s3cret") ∧
    (∃ pool pool' shown, open? "s3cret" = .ok (pool, shown) ∧
      open? "a@b:c" = .ok (pool', shown)) ∧
    hidePassword "crm:crm@localhost" = "crm:crm@localhost" ∧
    hidePassword ("postgres" ++ "://" ++ "crm" ++ "@" ++ "localhost") =
      "postgres" ++ "://" ++ "crm" ++ "@" ++ "localhost" := by
  intro address open?
  have hscheme : ¬schemeEnd <:+: "postgres".toList := by decide
  have huser : ':' ∉ "crm".toList := by decide
  have hrest : '@' ∉ "localhost/crm_db".toList := by decide
  have exists_ok {result : Except Segmentation.Fault (Pool × String)} (h : result.isOk) :
      ∃ pool shown, result = .ok (pool, shown) := by
    cases result with
    | ok opened => exact ⟨opened.1, opened.2, rfl⟩
    | error f => cases h
  have hopen : (open? "s3cret").isOk := by decide +kernel
  have hopen' : (open? "a@b:c").isOk := by decide +kernel
  obtain ⟨hhidden, -, hplain, hparts⟩ := passwords_are_hidden
  obtain ⟨pool, shown, h⟩ := exists_ok hopen
  obtain ⟨pool', shown', h'⟩ := exists_ok hopen'
  obtain ⟨-, hstars, hshown⟩ := hhidden _ _ _ "a@b:c" "s3cret" hscheme huser
  obtain ⟨hcongr, -, -⟩ := hhidden _ _ "localhost/crm_db" "a@b://c" "s3cret" hscheme huser
  refine ⟨⟨hscheme, huser, hrest, hopen, hopen'⟩, hstars hrest, hcongr, ?_, ?_, ?_⟩
  · obtain rfl := hshown _ smallPool _ _ _ _ h' h
    exact ⟨pool, pool', shown', h, h'⟩
  · exact hplain _ (by decide)
  · exact (hparts _ hscheme).2 _ _ huser (by decide)

end Segmentation.Database.Address
