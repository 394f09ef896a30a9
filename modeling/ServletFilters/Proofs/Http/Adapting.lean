import Mathlib.Data.List.Basic
import ServletFilters.Http.Adapter
import ServletFilters.Proofs.Component.Builtins

/-!
The headers of a request that came in over HTTP, as components find them. A value is kept iff it is
ASCII: what is no UTF-8 is dropped, and so is every text with a character beyond ASCII,
`Http.adapt_headers`. A filter that requires a header goes on iff a value of that name was kept.
-/

namespace ServletFilters

/-! ### The bytes of texts -/

theorem byteArray_toList (bytes : ByteArray) : bytes.toList = bytes.data.toList := by
  have loop (i : Nat) (read : List UInt8) :
      ByteArray.toList.loop bytes i read = read.reverse ++ bytes.data.toList.drop i := by
    fun_induction ByteArray.toList.loop bytes i read with
    | case1 i read inside ih =>
      have within : i < bytes.data.toList.length := by simpa using inside
      rw [ih, List.drop_eq_getElem_cons within]
      simp [ByteArray.get!, inside]
    | case2 i read outside =>
      rw [List.drop_eq_nil_of_le (by simpa using outside)]
      simp
  simp [ByteArray.toList, loop]

theorem utf8_ofList (s : List Char) : utf8 (String.ofList s) = s.flatMap String.utf8EncodeChar := by
  rw [utf8, String.toUTF8_eq_toByteArray, String.toByteArray_ofList, byteArray_toList]
  exact List.toList_data_toByteArray

theorem utf8_injective {a b : String} (h : utf8 a = utf8 b) : a = b := by
  simp only [utf8, String.toUTF8_eq_toByteArray, byteArray_toList] at h
  exact String.toByteArray_inj.1 (ByteArray.ext (Array.toList_inj.1 h))

/-- The byte is a character of its own in UTF-8. -/
def isAscii (b : UInt8) : Bool := b < 128

theorem utf8EncodeChar_ofNat {b : UInt8} (ascii : isAscii b = true) :
    String.utf8EncodeChar (Char.ofNat b.toNat) = [b] ∧ (Char.ofNat b.toNat).toNat < 128 := by
  have each : ∀ n : Fin 128, String.utf8EncodeChar (Char.ofNat n) = [UInt8.ofNat n] ∧
      (Char.ofNat n).toNat < 128 := by
    decide +kernel
  have low : b.toNat < 128 := by simpa [isAscii, UInt8.lt_iff_toNat_lt] using ascii
  simpa using each ⟨b.toNat, low⟩

/-- The text whose characters have these numbers. -/
def asciiText (value : List UInt8) : String := String.ofList (value.map fun b => Char.ofNat b.toNat)

theorem utf8_asciiText {value : List UInt8} (ascii : value.all isAscii = true) :
    utf8 (asciiText value) = value := by
  rw [asciiText, utf8_ofList]
  induction value with
  | nil => rfl
  | cons b rest ih =>
    obtain ⟨first, others⟩ := (Bool.and_eq_true _ _).mp (List.all_cons ▸ ascii)
    rw [List.map_cons, List.flatMap_cons, (utf8EncodeChar_ofNat first).1, ih others,
      List.singleton_append]

theorem utf8_isAscii {text : String} :
    (utf8 text).all isAscii = true ↔ ∀ c ∈ text.toList, c.toNat < 128 := by
  constructor
  · intro ascii c within
    rw [← utf8_injective (utf8_asciiText ascii), asciiText, String.toList_ofList] at within
    obtain ⟨b, there, rfl⟩ := List.mem_map.1 within
    exact (utf8EncodeChar_ofNat (List.all_eq_true.1 ascii b there)).2
  · intro low
    rw [← String.ofList_toList (s := text), utf8_ofList]
    refine List.all_eq_true.2 fun b there => ?_
    obtain ⟨c, within, encoded⟩ := List.mem_flatMap.1 there
    have low : c.toNat < 128 := low c within
    have single : c.utf8Size = 1 := Char.utf8Size_eq_one_iff.2 (by
      rw [UInt32.le_iff_toNat_le]
      exact Nat.le_of_lt_succ low)
    rw [String.utf8EncodeChar_eq_singleton single, List.mem_singleton] at encoded
    rw [encoded, isAscii, decide_eq_true_eq, UInt8.lt_iff_toNat_lt, UInt32.toNat_toUInt8]
    exact Nat.lt_of_le_of_lt (Nat.mod_le ..) low

namespace Http

/-! ### The values that are kept -/

theorem isTextByte_eq {b : UInt8} (field : isFieldByte b = true) : isTextByte b = isAscii b := by
  simp only [isFieldByte, Bool.or_eq_true, Bool.and_eq_true, decide_eq_true_eq, beq_iff_eq,
    bne_iff_ne, ne_eq, UInt8.le_iff_toNat_le, ← UInt8.toNat_inj] at field
  rw [Bool.eq_iff_iff]
  simp only [isTextByte, isAscii, Bool.or_eq_true, Bool.and_eq_true, decide_eq_true_eq, beq_iff_eq,
    UInt8.le_iff_toNat_le, UInt8.lt_iff_toNat_lt, ← UInt8.toNat_inj]
  simp only [UInt8.reduceToNat] at field ⊢
  omega

theorem fieldText?_eq {value : List UInt8} (field : value.all isFieldByte = true) :
    fieldText? value = if value.all isAscii then some (asciiText value) else none := by
  have same : value.all isTextByte = value.all isAscii := by
    rw [Bool.eq_iff_iff, List.all_eq_true, List.all_eq_true]
    exact forall₂_congr fun b there => by rw [isTextByte_eq (List.all_eq_true.1 field b there)]
  rw [fieldText?, same, asciiText]

theorem keptHeaders_utf8 {headers : List (String × List UInt8)}
    (field : ∀ h ∈ headers, h.2.all isFieldByte = true) :
    (headers.filterMap fun h => (fieldText? h.2).map fun value => (h.1, value)).map
        (fun h => (h.1, utf8 h.2)) =
      headers.filter fun h => h.2.all isAscii := by
  induction headers with
  | nil => rfl
  | cons h rest ih =>
    have ih := ih fun g there => field g (List.mem_cons_of_mem _ there)
    rw [List.filterMap_cons, fieldText?_eq (field h List.mem_cons_self), List.filter_cons]
    cases ascii : h.2.all isAscii with
    | false => exact ih
    | true => exact congrArg₂ List.cons (Prod.ext rfl (utf8_asciiText ascii)) ih

theorem header?_field {name : String} {value : List UInt8} {h : String × List UInt8}
    (allowed : header? name value = some h) : h.2.all isFieldByte = true := by
  unfold header? at allowed
  split at allowed
  · obtain ⟨name', -, rfl⟩ := Option.map_eq_some_iff.1 allowed
    assumption
  · cases allowed

theorem mem_of_mem_grouped {headers : List (String × α)} {h : String × α}
    (there : h ∈ grouped headers) : h ∈ headers := by
  obtain ⟨name, -, there⟩ := List.mem_flatMap.1 there
  exact (List.mem_filter.1 there).1

theorem mem_of_mapM {f : α → Option β} {l : List α} {bs : List β} (each : l.mapM f = some bs) :
    ∀ b ∈ bs, ∃ a ∈ l, f a = some b := by
  induction l generalizing bs with
  | nil =>
    obtain rfl := Option.some.inj each
    exact List.forall_mem_nil _
  | cons a rest ih =>
    rw [List.mapM_cons] at each
    obtain ⟨b, made, after⟩ := Option.bind_eq_some_iff.1 each
    obtain ⟨others, mapped, whole⟩ := Option.bind_eq_some_iff.1 after
    obtain rfl := Option.some.inj whole
    refine List.forall_mem_cons.2 ⟨⟨a, List.mem_cons_self, made⟩, fun b' there => ?_⟩
    obtain ⟨a', listed, made⟩ := ih mapped b' there
    exact ⟨a', List.mem_cons_of_mem _ listed, made⟩

theorem Incoming.make?_parts {method address : String} {given : List (String × List UInt8)}
    {body : List UInt8} {failure : Option String} {r : Incoming}
    (allowed : Incoming.make? method address given body failure = some r) :
    r.body = body ∧ r.bodyFailure = failure ∧ ∀ h ∈ r.headers, h.2.all isFieldByte = true := by
  obtain ⟨target, -, allowed⟩ := Option.bind_eq_some_iff.1 allowed
  obtain ⟨headers, each, allowed⟩ := Option.bind_eq_some_iff.1 allowed
  split at allowed
  · obtain rfl := Option.some.inj allowed
    refine ⟨rfl, rfl, fun h there => ?_⟩
    obtain ⟨g, -, made⟩ := mem_of_mapM each h (mem_of_mem_grouped there)
    exact header?_field made
  · cases allowed

/-! ### The filter that requires a header -/

/-- The response of a filter that misses the header that it requires. -/
def missingHeader (header : String) (status : UInt16) (r : Response) : Response :=
  ({ r with status }.setHeader "content-type" "text/plain").write
    (utf8 ("missing required header: " ++ header ++ "\n"))

theorem requireHeader_run (header : String) (status : UInt16) (calls : Calls) (who : Component)
    (s : Container) :
    (Builtin.requireHeader header status).run calls who true s =
      if (s.request.header? header).isSome then calls .proceed s
      else (.ok (.ok ()), s.updateResponse (missingHeader header status)) := by
  have run : (Builtin.requireHeader header status).run calls who true s =
      (if (s.request.header? header).isSome then Program.proceed .finish else _).run calls who true s :=
    rfl
  rw [run]
  split
  · exact congrFun (bind_pure (calls .proceed)) s
  · rfl

/-- A request that can be read is adapted to one whose headers, written in UTF-8 again, are those
of the request with values in ASCII, in order and with repetitions. Of the values that are UTF-8
those are dropped, and no others, that have a character beyond ASCII. A filter that requires a
header goes on iff there is a value in ASCII of that name, whatever the case of the name; otherwise
it answers by itself. -/
theorem adapt_headers {method address : String} {given : List (String × List UInt8)}
    {body : List UInt8} {r : Incoming}
    (allowed : Incoming.make? method address given body none = some r) {limit : Nat}
    (fits : body.length ≤ limit) (id : String) :
    ∃ spec, r.adapt id limit = .ok spec ∧
      spec.headers.map (fun h => (h.1, utf8 h.2)) = (r.headers.filter fun h => h.2.all isAscii) ∧
      (∀ h ∈ r.headers, ∀ text, utf8 text = h.2 →
        ((h.1, text) ∈ spec.headers ↔ ∀ c ∈ text.toList, c.toNat < 128)) ∧
      ∀ serial header status calls who s, s.request = Request.ofSpec serial spec →
        (Builtin.requireHeader header status).run calls who true s =
          if ∃ h ∈ r.headers, Text.equalFold h.1 header = true ∧ h.2.all isAscii = true then
            calls .proceed s
          else (.ok (.ok ()), s.updateResponse (missingHeader header status)) := by
  obtain ⟨rfl, unbroken, field⟩ := Incoming.make?_parts allowed
  have adapted : r.adapt id limit = .ok {
      method := r.method, uri := r.target, id, body := r.body, async := true
      headers := r.headers.filterMap fun h => (fieldText? h.2).map fun value => (h.1, value) } := by
    rw [Incoming.adapt, if_neg (Nat.not_lt.2 fits), unbroken]
  have kept := keptHeaders_utf8 field
  refine ⟨_, adapted, kept, fun h there text encoded => ?_, ?_⟩
  · have injective : Function.Injective fun h : String × String => (h.1, utf8 h.2) :=
      fun _ _ same => Prod.ext (Prod.ext_iff.1 same).1 (utf8_injective (Prod.ext_iff.1 same).2)
    rw [← utf8_isAscii, ← List.mem_map_of_injective injective, kept, encoded]
    exact List.mem_filter.trans (and_iff_right there)
  · intro serial header status calls who s request
    have found : (s.request.header? header).isSome ↔
        ∃ h ∈ r.headers, Text.equalFold h.1 header = true ∧ h.2.all isAscii = true := by
      rw [header?_isSome, request]
      constructor
      · rintro ⟨h, there, named⟩
        have there := List.mem_filter.1 (kept ▸ List.mem_map_of_mem there)
        exact ⟨_, there.1, named, there.2⟩
      · rintro ⟨h, there, named, ascii⟩
        obtain ⟨g, adapted, rfl⟩ := List.mem_map.1 (kept ▸ List.mem_filter.2 ⟨there, ascii⟩)
        exact ⟨g, adapted, named⟩
    rw [requireHeader_run]
    exact if_congr found rfl rfl

/-- Two values that are UTF-8 and one that is not: only the one in ASCII is kept. -/
theorem adapt_headers_umlaut :
    ∃ r, Incoming.make? "GET" "/"
        [("x-name", [0x67, 0x72, 0xc3, 0xbc, 0x6e]), ("X-Token", [0x61, 0x62]), ("x-name", [0xff])]
        [] none = some r ∧ ([] : List UInt8).length ≤ 0 ∧ utf8 "grün" = [0x67, 0x72, 0xc3, 0xbc, 0x6e] ∧
      ∃ spec, r.adapt "1" 0 = .ok spec ∧ ("x-name", "grün") ∉ spec.headers ∧
        spec.headers.map (fun h => (h.1, utf8 h.2)) = [("x-token", [0x61, 0x62])] ∧
        ∀ calls who s, s.request = Request.ofSpec 0 spec →
          (Builtin.requireHeader "X-Name" 401).run calls who true s =
              (.ok (.ok ()), s.updateResponse (missingHeader "X-Name" 401)) ∧
            (Builtin.requireHeader "X-TOKEN" 401).run calls who true s = calls .proceed s := by
  have allowed : Incoming.make? "GET" "/"
      [("x-name", [0x67, 0x72, 0xc3, 0xbc, 0x6e]), ("X-Token", [0x61, 0x62]), ("x-name", [0xff])]
      [] none = some {
        method := "GET", target := "/"
        headers := [("x-name", [0x67, 0x72, 0xc3, 0xbc, 0x6e]), ("x-name", [0xff]),
          ("x-token", [0x61, 0x62])] } := by
    decide +kernel
  have encoded : utf8 "grün" = [0x67, 0x72, 0xc3, 0xbc, 0x6e] :=
    (utf8_ofList ['g', 'r', 'ü', 'n']).trans (by decide)
  obtain ⟨spec, adapted, kept, texts, filter⟩ := adapt_headers allowed (Nat.le_refl 0) "1"
  refine ⟨_, allowed, Nat.le_refl 0, encoded, spec, adapted, ?_, kept, fun calls who s request => ⟨?_, ?_⟩⟩
  · rw [texts ("x-name", _) List.mem_cons_self "grün" encoded]
    have umlaut : 'ü' ∈ "grün".toList := .tail _ (.tail _ (.head _))
    exact fun ascii => absurd (ascii 'ü' umlaut) (by decide)
  · rw [filter 0 "X-Name" 401 calls who s request, if_neg (by decide)]
  · rw [filter 0 "X-TOKEN" 401 calls who s request, if_pos (by decide)]

end Http

end ServletFilters
