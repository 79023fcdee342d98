import SqlSelect.Config.Basic
import SqlSelect.Proofs.Registry.DialectKeys

/-!
# `SqlSelect.Proofs.Registry.UrlSchemes`: the product of a connection URL

The scheme in front of the first colon of a URL names a product, except that another URL stands
behind `jdbc:`, which may again be of this kind. The names are compared without regard to the case of
ASCII letters, and everything else in a URL can be any text. `Detects` goes through a URL as one cuts
it by bytes, where a cut outside of the text or inside of a character would have no result; every URL
comes to a result all the same. A database that has only a URL is given the dialect of the product of
its URL.

* `Text.afterBytes?_append`: a cut behind characters of one byte each.
* `Backend.detects_iff`: the detection comes to one result.
* `Backend.ofUrl?_eq_some_iff`: the URLs of a product.
* `Backend.detection_resolves`: the detection and the adapter of a database with a URL.
-/

set_option autoImplicit false

namespace SqlSelect

open Text

/-! ### Cuts -/

namespace Text

/-- What stands behind the first `n` bytes of a text in UTF-8, if the text has as many and no
character goes over the cut. -/
def afterBytes? : Nat → List Char → Option (List Char)
  | 0, cs => some cs
  | _ + 1, [] => none
  | n + 1, c :: cs => if c.utf8Size ≤ n + 1 then afterBytes? (n + 1 - c.utf8Size) cs else none

/-- A cut behind characters of one byte each. -/
theorem afterBytes?_append {front : List Char} (h : ∀ c ∈ front, c.utf8Size = 1)
    (rest : List Char) : afterBytes? front.length (front ++ rest) = some rest := by
  induction front with
  | nil => rw [List.length_nil, List.nil_append, afterBytes?]
  | cons c front ih =>
    rw [List.forall_mem_cons] at h
    rw [List.length_cons, List.cons_append, afterBytes?, h.1, if_pos (Nat.le_add_left 1 _),
      Nat.add_sub_cancel, ih h.2]

/-- What is an ASCII character in lower case takes up one byte. -/
theorem utf8Size_of_toLower {c : Char} (h : c.toLower.toNat ≤ 127) : c.utf8Size = 1 := by
  rw [toNat_toLower] at h
  have hle : c.toNat ≤ 127 := by
    split at h <;> omega
  exact Char.utf8Size_eq_one_iff.mpr hle

/-- Lower case makes no colon and takes none away. -/
theorem toLower_eq_colon_iff {c : Char} : c.toLower = ':' ↔ c = ':' := by
  rw [← Char.toNat_inj, ← Char.toNat_inj, toNat_toLower]
  have hcolon : ':'.toNat = 58 := rfl
  split <;> omega

end Text

namespace Backend

/-! ### Detection -/

/-- The product with a scheme in lower case. -/
def ofScheme? (scheme : String) : Option Backend :=
  all.find? fun b => b.schemes.contains scheme

/-- How the product of a URL is detected. Without a colon there is none. Behind the scheme `jdbc` the
URL is cut after five bytes and the detection goes on, and any other scheme decides. -/
inductive Detects : List Char → Option Backend → Prop
  | noColon {cs : List Char} (hcolon : ':' ∉ cs) : Detects cs none
  | wrapped {scheme rest inner : List Char} {result : Option Backend} (hcolon : ':' ∉ scheme)
      (hscheme : lowerAscii (String.ofList scheme) = "jdbc")
      (hcut : afterBytes? 5 (scheme ++ ':' :: rest) = some inner) (h : Detects inner result) :
      Detects (scheme ++ ':' :: rest) result
  | scheme {scheme rest : List Char} (hcolon : ':' ∉ scheme)
      (hscheme : lowerAscii (String.ofList scheme) ≠ "jdbc") :
      Detects (scheme ++ ':' :: rest) (ofScheme? (lowerAscii (String.ofList scheme)))

variable {cs scheme : List Char}

/-- Without a colon there is no scheme. -/
theorem ofUrlChars?_of_notMem (h : ':' ∉ cs) : ofUrlChars? cs = none := by
  have hsplit := splitAt?_eq_none_iff.mpr h
  rw [ofUrlChars?]
  split
  · rfl
  · rename_i hsome
    rw [hsplit] at hsome
    cases hsome

/-- What stands in front of the first colon decides, or sends on to what stands behind it. -/
theorem ofUrlChars?_append (h : ':' ∉ scheme) (rest : List Char) :
    ofUrlChars? (scheme ++ ':' :: rest)
      = if lowerAscii (String.ofList scheme) = "jdbc" then ofUrlChars? rest
        else ofScheme? (lowerAscii (String.ofList scheme)) := by
  have hsplit := splitAt?_append_of_notMem h rest
  rw [ofUrlChars?]
  split
  · rename_i hnone
    rw [hsplit] at hnone
    cases hnone
  · rename_i hsome
    rw [hsplit] at hsome
    cases hsome
    rfl

/-- Whatever their letter case, the characters of `jdbc:` take up a byte each, so five bytes go up to
the colon. -/
theorem afterBytes?_of_jdbc (h : lowerAscii (String.ofList scheme) = "jdbc") (rest : List Char) :
    afterBytes? 5 (scheme ++ ':' :: rest) = some rest := by
  have hlower : scheme.map Char.toLower = "jdbc".toList := by
    rw [← h, toList_lowerAscii, String.toList_ofList]
  have hsizes : ∀ c ∈ scheme ++ [':'], c.utf8Size = 1 := by
    intro c hc
    rcases List.mem_append.mp hc with hletter | hcolon
    · -- Only letters of ASCII have one of these letters as their lower case.
      have hmem : c.toLower ∈ "jdbc".toList := hlower ▸ List.mem_map_of_mem hletter
      have hascii : ∀ x ∈ "jdbc".toList, x.toNat ≤ 127 := by simp
      exact utf8Size_of_toLower (hascii _ hmem)
    · rw [List.mem_singleton.mp hcolon]
      rfl
  have hlength : (scheme ++ [':']).length = 5 := by
    rw [List.length_append, ← List.length_map (f := Char.toLower), hlower]
    rfl
  have hcut := afterBytes?_append hsizes rest
  rwa [hlength, ← List.append_cons] at hcut

/-- The detection comes to an end for every URL, and it has one result. -/
theorem detects_iff {result : Option Backend} : Detects cs result ↔ result = ofUrlChars? cs := by
  constructor
  · -- A run gives the value of the recursion: induction on the run.
    intro h
    induction h with
    | noColon hcolon => exact (ofUrlChars?_of_notMem hcolon).symm
    | wrapped hcolon hscheme hcut h ih =>
      rw [afterBytes?_of_jdbc hscheme] at hcut
      cases hcut
      rw [ofUrlChars?_append hcolon, if_pos hscheme]
      exact ih
    | scheme hcolon hscheme => rw [ofUrlChars?_append hcolon, if_neg hscheme]
  · -- The recursion has a run: its own cases, with each cut one that does not fail.
    rintro rfl
    fun_induction ofUrlChars? cs with
    | case1 cs hsplit => exact .noColon (splitAt?_eq_none_iff.mp hsplit)
    | case2 cs scheme rest hsplit lowered hscheme ih =>
      obtain ⟨rfl, hcolon⟩ := eq_append_of_splitAt? hsplit
      exact .wrapped hcolon hscheme (afterBytes?_of_jdbc hscheme rest) ih
    | case3 cs scheme rest hsplit lowered hscheme =>
      obtain ⟨rfl, hcolon⟩ := eq_append_of_splitAt? hsplit
      exact .scheme hcolon hscheme

/-! ### The URLs of a product -/

/-- Whether a URL is one of a product: copies of `jdbc:`, one of the schemes of the product, a colon,
and any text, without regard to the case of ASCII letters. -/
def IsUrlOf (b : Backend) (url : String) : Prop :=
  ∃ (wrappers : List String) (scheme rest : String),
    (∀ wrapper ∈ wrappers, lowerAscii wrapper = "jdbc:") ∧ lowerAscii scheme ∈ b.schemes ∧
      url = String.join wrappers ++ scheme ++ ":" ++ rest

/-- No scheme is one of two products. -/
theorem ofScheme?_eq_some_iff {b : Backend} {name : String} :
    ofScheme? name = some b ↔ name ∈ b.schemes := by
  constructor
  · intro h
    simpa using List.find?_some h
  · -- No scheme is that of two products, so the first product with this one is the only one.
    have honly : ∀ b : Backend, ∀ name ∈ b.schemes, ofScheme? name = some b := by
      intro b
      cases b <;> decide +kernel
    exact honly b name

/-- The scheme that wraps other URLs is no product's. -/
theorem jdbc_notMem_schemes (b : Backend) : "jdbc" ∉ b.schemes := by
  cases b <;> decide

/-- A scheme of a product is never cut by a colon. -/
theorem colon_notMem_of_mem_schemes {b : Backend} {name : String} (h : name ∈ b.schemes) :
    ':' ∉ name.toList := by
  revert name
  cases b <;> decide

/-- Lower case makes no colon and takes none away. -/
theorem colon_mem_lowerAscii {name : String} :
    ':' ∈ (lowerAscii name).toList ↔ ':' ∈ name.toList := by
  simp [toList_lowerAscii, toLower_eq_colon_iff]

/-- The same for texts. -/
theorem ofUrl?_append {scheme : String} (h : ':' ∉ scheme.toList) (rest : String) :
    ofUrl? (scheme ++ ":" ++ rest)
      = if lowerAscii scheme = "jdbc" then ofUrl? rest else ofScheme? (lowerAscii scheme) := by
  have hchars : (scheme ++ ":" ++ rest).toList = scheme.toList ++ ':' :: rest.toList := by simp
  rw [ofUrl?, hchars, ofUrlChars?_append h, String.ofList_toList, ofUrl?]

/-- A URL with a scheme of a product is one of the product, whatever stands behind the colon. -/
theorem ofUrl?_scheme {b : Backend} {scheme : String} (h : lowerAscii scheme ∈ b.schemes)
    (rest : String) : ofUrl? (scheme ++ ":" ++ rest) = some b := by
  have hcolon : ':' ∉ scheme.toList := fun hmem =>
    colon_notMem_of_mem_schemes h (colon_mem_lowerAscii.mpr hmem)
  have hjdbc : lowerAscii scheme ≠ "jdbc" := fun heq => b.jdbc_notMem_schemes (heq ▸ h)
  rw [ofUrl?_append hcolon, if_neg hjdbc, ofScheme?_eq_some_iff]
  exact h

/-- A wrapper is the scheme that wraps and its colon. -/
theorem lowerAscii_eq_jdbc_colon_iff {wrapper : String} :
    lowerAscii wrapper = "jdbc:" ↔ ∃ scheme, wrapper = scheme ++ ":" ∧ lowerAscii scheme = "jdbc" := by
  constructor
  · intro h
    have hlower : wrapper.toList.map Char.toLower = "jdbc".toList ++ [':'] := by
      rw [← toList_lowerAscii, h]
      rfl
    obtain ⟨scheme, colon, hwrapper, hscheme, hcolon⟩ := List.map_eq_append_iff.mp hlower
    obtain ⟨c, rfl, hc⟩ := List.map_eq_singleton_iff.mp hcolon
    -- No other character becomes a colon in lower case.
    obtain rfl := toLower_eq_colon_iff.mp hc
    refine ⟨String.ofList scheme, ?_, ?_⟩
    · rw [← String.toList_inj, hwrapper, String.toList_append, String.toList_ofList]
      rfl
    · rw [← String.toList_inj, toList_lowerAscii, String.toList_ofList, hscheme]
  · rintro ⟨scheme, rfl, hscheme⟩
    have hlower : scheme.toList.map Char.toLower = "jdbc".toList := by
      rw [← toList_lowerAscii, hscheme]
    rw [← String.toList_inj, toList_lowerAscii, String.toList_append, List.map_append, hlower]
    rfl

/-- A wrapper in front of a URL changes nothing about its product. -/
theorem ofUrl?_wrapped {wrapper : String} (h : lowerAscii wrapper = "jdbc:") (url : String) :
    ofUrl? (wrapper ++ url) = ofUrl? url := by
  obtain ⟨scheme, rfl, hscheme⟩ := lowerAscii_eq_jdbc_colon_iff.mp h
  have hcolon : ':' ∉ scheme.toList := by
    rw [← colon_mem_lowerAscii, hscheme]
    decide
  rw [ofUrl?_append hcolon, if_pos hscheme]

/-- A product that was detected was found in a scheme, behind wrappers, by induction on the cuts. -/
theorem isUrlOf_of_ofUrlChars? {b : Backend} (h : ofUrlChars? cs = some b) :
    b.IsUrlOf (String.ofList cs) := by
  fun_induction ofUrlChars? cs with
  | case1 cs hsplit => cases h
  | case2 cs scheme rest hsplit lowered hscheme ih =>
    obtain ⟨wrappers, inner, behind, hwrappers, hinner, hrest⟩ := ih h
    obtain ⟨rfl, -⟩ := eq_append_of_splitAt? hsplit
    have hwrapper : lowerAscii (String.ofList scheme ++ ":") = "jdbc:" :=
      lowerAscii_eq_jdbc_colon_iff.mpr ⟨String.ofList scheme, rfl, hscheme⟩
    -- The scheme that was cut off is one more wrapper in front.
    refine ⟨(String.ofList scheme ++ ":") :: wrappers, inner, behind, ?_, hinner, ?_⟩
    · rw [List.forall_mem_cons]
      exact ⟨hwrapper, hwrappers⟩
    · rw [List.append_cons, String.ofList_append, hrest, String.join_cons, String.ofList_append]
      simp only [String.append_assoc]
  | case3 cs scheme rest hsplit lowered hscheme =>
    obtain ⟨rfl, -⟩ := eq_append_of_splitAt? hsplit
    refine ⟨[], String.ofList scheme, String.ofList rest, by simp, ofScheme?_eq_some_iff.mp h, ?_⟩
    simp [← String.toList_inj]

/-- The URLs of a product are the ones it is detected in. -/
theorem ofUrl?_eq_some_iff {b : Backend} {url : String} :
    ofUrl? url = some b ↔ b.IsUrlOf url := by
  constructor
  · intro h
    rw [← String.ofList_toList (s := url)]
    exact isUrlOf_of_ofUrlChars? h
  · rintro ⟨wrappers, scheme, rest, hwrappers, hscheme, rfl⟩
    induction wrappers with
    | nil => exact ofUrl?_scheme hscheme rest
    | cons wrapper wrappers ih =>
      rw [List.forall_mem_cons] at hwrappers
      rw [String.join_cons, String.append_assoc, String.append_assoc, String.append_assoc,
        ofUrl?_wrapped hwrappers.1, ← String.append_assoc, ← String.append_assoc, ih hwrappers.2]

/-! ### The dialect of a database with a URL -/

/-- The keys of the products are compared as they are. -/
theorem normalName_key (b : Backend) : normalName b.key = b.key := by
  cases b <;> decide +kernel

/-- The key of a product leads to its dialect. -/
theorem lookup_builtin_key (b : Backend) :
    DialectRegistry.builtin.lookup b.key = .ok b.dialect := by
  rw [DialectRegistry.lookup, DialectRegistry.lookup?, normalName_key,
    DialectRegistry.get?_builtin_key]

/-- A built-in dialect has the key of its product for a name. -/
theorem name_dialect (b : Backend) : b.dialect.name = b.key := by
  cases b <;> rfl

/-- The detection has one result for every URL, and a cut never fails; a product is detected in its
URLs. A database without an adapter is given the key of the product of its URL, under which the
built-in dialect of this name is found. It is refused where its URL is that of no product, and where
it has none. -/
theorem detection_resolves (url : String) :
    (∀ result, Detects url.toList result ↔ result = ofUrl? url) ∧
      (∀ b, ofUrl? url = some b ↔ b.IsUrlOf url) ∧
      ∀ c : DatabaseConfig, c.adapter = none →
        (∀ b : Backend, b.IsUrlOf url → c.url = some url →
          ∃ key, c.adapterKey = .ok key ∧
            DialectRegistry.builtin.lookup key = .ok b.dialect ∧ b.dialect.name = b.key) ∧
        ((∀ b : Backend, ¬ b.IsUrlOf url) → c.url = some url →
          ∃ fault, c.adapterKey = .error fault ∧
            fault.toError = .config ("Cannot detect the database adapter from URL '" ++ url ++ "'")) ∧
        (c.url = none →
          ∃ fault, c.adapterKey = .error fault ∧
            fault.toError = .config "Database needs an adapter or a URL") := by
  refine ⟨fun result => detects_iff, fun b => ofUrl?_eq_some_iff, fun c hadapter => ⟨?_, ?_, ?_⟩⟩
  · intro b hb hurl
    refine ⟨b.key, ?_, lookup_builtin_key b, name_dialect b⟩
    simp [DatabaseConfig.adapterKey, hadapter, hurl, ofUrl?_eq_some_iff.mpr hb]
  · intro hnone hurl
    have hdetected : ofUrl? url = none :=
      Option.eq_none_iff_forall_ne_some.mpr fun b hb => hnone b (ofUrl?_eq_some_iff.mp hb)
    refine ⟨.unknownUrl url, ?_, rfl⟩
    simp [DatabaseConfig.adapterKey, hadapter, hurl, hdetected]
  · intro hurl
    refine ⟨.noAdapter, ?_, rfl⟩
    simp [DatabaseConfig.adapterKey, hadapter, hurl]

/-- A URL behind two copies of `jdbc:`, one with the scheme of no product, and none at all. -/
theorem detection_resolves_mariaDb :
    (Detects "JDBC:jdbc:MariaDB://db".toList (some .mySql) ∧
      mySql.IsUrlOf "JDBC:jdbc:MariaDB://db" ∧
      ∃ key, ({ url := some "JDBC:jdbc:MariaDB://db" } : DatabaseConfig).adapterKey = .ok key ∧
        DialectRegistry.builtin.lookup key = .ok mySql.dialect ∧ mySql.dialect.name = "mysql") ∧
      (∃ fault, ({ url := some "redis://db" } : DatabaseConfig).adapterKey = .error fault ∧
        fault.toError = .config "Cannot detect the database adapter from URL 'redis://db'") ∧
      ∃ fault, ({} : DatabaseConfig).adapterKey = .error fault ∧
        fault.toError = .config "Database needs an adapter or a URL" := by
  have hurl : mySql.IsUrlOf "JDBC:jdbc:MariaDB://db" :=
    ⟨["JDBC:", "jdbc:"], "MariaDB", "//db", by decide +kernel, by decide +kernel, rfl⟩
  have hnone : ofUrl? "redis://db" = none := by
    show ofUrl? ("redis" ++ ":" ++ "//db") = none
    rw [ofUrl?_append (by decide)]
    decide +kernel
  obtain ⟨hdetects, hproduct, hconfig⟩ := detection_resolves "JDBC:jdbc:MariaDB://db"
  obtain ⟨-, hother, hconfigOther⟩ := detection_resolves "redis://db"
  refine ⟨⟨(hdetects _).mpr ((hproduct _).mpr hurl).symm, hurl, (hconfig _ rfl).1 _ hurl rfl⟩,
    (hconfigOther _ rfl).2.1 (fun b hb => ?_) rfl, (hconfigOther _ rfl).2.2 rfl⟩
  rw [(hother b).mpr hb] at hnone
  cases hnone

end Backend

end SqlSelect
