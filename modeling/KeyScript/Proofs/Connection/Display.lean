import KeyScript.Proofs.Connection.Addresses

/-! The URL that is shown for a server. No sign of it is lost or made up: the at sign tells
whether there are credentials, the slash behind the address where the database begins, and
the colons which host was put in brackets. So servers that differ are shown by different
URLs, and of the credentials nothing is shown but that there are some. -/
namespace KeyScript.Connection

/-- What the grammar of addresses leaves out of a host. -/
structure Plain (host : List Char) : Prop where
  slash : '/' ∉ host
  atSign : '@' ∉ host
  bracket : ':' ∈ host → ']' ∉ host

theorem HostText.subset (text : HostText cs host digits) : host ⊆ cs := by
  intro c member
  cases text with
  | plain => exact member
  | plainPort => exact List.mem_append_left _ member
  | bracketed => simp [member]
  | bracketedPort => simp [member]

theorem AddressText.plain (text : AddressText cs host port) : Plain host.toList := by
  obtain ⟨slash, atSign, _, digits, written, _⟩ := text
  refine ⟨fun member => slash (written.subset member),
    fun member => atSign (written.subset member), ?_⟩
  intro colon
  cases written with
  | plain _ outside => exact absurd colon outside
  | plainPort _ outside => exact absurd colon outside
  | bracketed outside => exact outside
  | bracketedPort outside => exact outside

theorem plain_of_parseAddress (read : parseAddress address = .ok (host, port)) :
    Plain host.toList := by
  rw [parseAddress] at read
  split at read
  · rename_i found
    obtain rfl := Except.ok.inj read
    exact (parseTrimmed?_sound found).plain
  · contradiction

theorem endpoint_eq_ok_iff {settings : ConnectionSettings} : endpoint settings = .ok e ↔
    ∃ host port, parseAddress settings.address = .ok (host, port) ∧
      e = ⟨.host host port, settings.database.toNat, settings.username, settings.password⟩ := by
  rw [endpoint]
  cases parseAddress settings.address with
  | error fault => simp
  | ok pair =>
    obtain ⟨host, port⟩ := pair
    simp [eq_comm]

/-- The first `c` of both texts stands at the same place. -/
theorem append_cons_inj {front front' back back' : List Char} (left : c ∉ front)
    (right : c ∉ front') (same : front ++ c :: back = front' ++ c :: back') :
    front = front' ∧ back = back' := by
  have cut : splitAt? c (front ++ c :: back) = some (front, back) := splitAt?_append left
  rw [same, splitAt?_append right] at cut
  obtain ⟨rfl, rfl⟩ := Prod.mk.inj (Option.some.inj cut)
  exact ⟨rfl, rfl⟩

/-- The host and the port as they are shown. -/
def shown (host : List Char) (port : Nat) : List Char :=
  if ':' ∈ host then '[' :: (host ++ ']' :: ':' :: Text.decimal port)
  else host ++ ':' :: Text.decimal port

theorem toList_text (host : String) (port : Nat) :
    (Address.text (.host host port)).toList = shown host.toList port := by
  rw [Address.text, shown]
  simp only [List.contains_iff_mem]
  split <;> simp

section
variable {host host' : List Char}

/-- A host in brackets is shown with a colon inside them and one behind them. -/
theorem one_lt_count_shown (colon : ':' ∈ host) (port : Nat) : 1 < (shown host port).count ':' := by
  have inside := List.count_pos_iff.mpr colon
  rw [shown, if_pos colon]
  simp only [List.count_cons, List.count_append]
  simp
  omega

theorem count_shown (none : ':' ∉ host) (port : Nat) : (shown host port).count ':' = 1 := by
  have digits : ':' ∉ Text.decimal port := Text.not_mem_decimal rfl port
  rw [shown, if_neg none, List.count_append, List.count_eq_zero.mpr none, List.count_cons_self,
    List.count_eq_zero.mpr digits]

theorem colon_iff_of_shown (same : shown host port = shown host' port') :
    ':' ∈ host ↔ ':' ∈ host' := by
  by_cases left : ':' ∈ host <;> by_cases right : ':' ∈ host'
  · exact iff_of_true left right
  · have many := one_lt_count_shown left port
    rw [same, count_shown right] at many
    contradiction
  · have many := one_lt_count_shown right port'
    rw [← same, count_shown left] at many
    contradiction
  · exact iff_of_false left right

theorem shown_inj (plain : Plain host) (plain' : Plain host')
    (same : shown host port = shown host' port') : host = host' ∧ port = port' := by
  have colons := colon_iff_of_shown same
  rw [shown, shown] at same
  by_cases colon : ':' ∈ host
  · have colon' := colons.mp colon
    rw [if_pos colon, if_pos colon'] at same
    obtain ⟨rfl, tail⟩ :=
      append_cons_inj (plain.bracket colon) (plain'.bracket colon') (List.cons.inj same).2
    exact ⟨rfl, Text.decimal_injective (List.cons.inj tail).2⟩
  · have colon' := mt colons.mpr colon
    rw [if_neg colon, if_neg colon'] at same
    obtain ⟨rfl, tail⟩ := append_cons_inj colon colon' same
    exact ⟨rfl, Text.decimal_injective tail⟩

theorem not_mem_shown (outside : c ∉ host) (sign : c ∉ ['[', ']', ':'])
    (other : c.isDigit = false) (port : Nat) : c ∉ shown host port := by
  have digits := Text.not_mem_decimal other port
  rw [shown]
  split <;> simp_all

end

/-- What is shown in front of the address. -/
def mask (credentials : Bool) : List Char := if credentials then ['*', '*', '*', '@'] else []

theorem toList_url (host : String) (port database : Nat) (username password : Option String) :
    (Endpoint.url ⟨.host host port, database, username, password⟩).toList =
      "redis://".toList ++ (mask (username.isSome || password.isSome) ++
        (shown host.toList port ++ '/' :: Text.decimal database)) := by
  simp only [Endpoint.url, mask, String.toList_append, toList_text]
  split <;> simp

theorem mask_inj (left : '@' ∉ cs) (right : '@' ∉ cs')
    (same : mask present ++ cs = mask present' ++ cs') : present = present' ∧ cs = cs' := by
  cases present <;> cases present'
  · exact ⟨rfl, same⟩
  · have sign : '@' ∈ cs := by
      rw [show cs = _ from same]
      simp [mask]
    contradiction
  · have sign : '@' ∈ cs' := by
      rw [show cs' = _ from same.symm]
      simp [mask]
    contradiction
  · exact ⟨rfl, List.append_cancel_left same⟩

theorem url_inj {username username' password password' : Option String}
    (plain : Plain host.toList) (plain' : Plain host'.toList)
    (same : Endpoint.url ⟨.host host port, database, username, password⟩ =
      Endpoint.url ⟨.host host' port', database', username', password'⟩) :
    (host = host' ∧ port = port' ∧ database = database') ∧
      (username.isSome || password.isSome) = (username'.isSome || password'.isSome) := by
  have unmarked : ∀ {host : String} {port database : Nat}, Plain host.toList →
      '@' ∉ shown host.toList port ++ '/' :: Text.decimal database := by
    intro host port database plain
    have address := not_mem_shown plain.atSign (by decide) rfl port
    have digits : '@' ∉ Text.decimal database := Text.not_mem_decimal rfl database
    simp [address, digits]
  have chars := congrArg String.toList same
  rw [toList_url, toList_url] at chars
  obtain ⟨credentials, chars⟩ :=
    mask_inj (unmarked plain) (unmarked plain') (List.append_cancel_left chars)
  obtain ⟨address, digits⟩ := append_cons_inj (not_mem_shown plain.slash (by decide) rfl port)
    (not_mem_shown plain'.slash (by decide) rfl port') chars
  obtain ⟨name, rfl⟩ := shown_inj plain plain' address
  exact ⟨⟨String.toList_inj.mp name, rfl, Text.decimal_injective digits⟩, credentials⟩

theorem url_congr {username username' password password' : Option String} (address : Address)
    (database : Nat) (credentials :
      (username.isSome || password.isSome) = (username'.isSome || password'.isSome)) :
    Endpoint.url ⟨address, database, username, password⟩ =
      Endpoint.url ⟨address, database, username', password'⟩ := by
  simp only [Endpoint.url, credentials]

/-- Two servers are shown by the same URL exactly when host, port and database are the same
and both have credentials or neither has. So another name or another password in place of
one that is there is accepted and leaves the URL as it is. -/
theorem url_eq_iff_server {c c' : ConnectionSettings} {e e' : Endpoint}
    (accepted : endpoint c = .ok e) (accepted' : endpoint c' = .ok e') :
    (∃ host port host' port', parseAddress c.address = .ok (host, port) ∧
      parseAddress c'.address = .ok (host', port') ∧
      (e.url = e'.url ↔ host = host' ∧ port = port' ∧ c.database = c'.database ∧
        (c.username.isSome || c.password.isSome) = (c'.username.isSome || c'.password.isSome))) ∧
    ∀ username password, username.isSome = c.username.isSome →
      password.isSome = c.password.isSome →
      ∃ changed, endpoint { c with username, password } = .ok changed ∧ changed.url = e.url := by
  obtain ⟨host, port, read, rfl⟩ := endpoint_eq_ok_iff.mp accepted
  obtain ⟨host', port', read', rfl⟩ := endpoint_eq_ok_iff.mp accepted'
  constructor
  · refine ⟨host, port, host', port', read, read', ?_⟩
    constructor
    · intro same
      obtain ⟨⟨name, number, database⟩, credentials⟩ :=
        url_inj (plain_of_parseAddress read) (plain_of_parseAddress read') same
      exact ⟨name, number, UInt32.toNat_inj.mp database, credentials⟩
    · rintro ⟨rfl, rfl, database, credentials⟩
      rw [database]
      exact url_congr _ _ credentials
  · intro username password name secret
    refine ⟨_, endpoint_eq_ok_iff.mpr ⟨host, port, read, rfl⟩, url_congr _ _ ?_⟩
    rw [name, secret]

/-- A host with an open bracket and a colon, once with a port and a password that looks like
part of the URL, and once with blanks around it, the standard port and a name. -/
theorem url_eq_iff_server_brackets : ∃ e e',
    endpoint ⟨"[[*:]:+06379", none, some "***@[", 7, 5⟩ = .ok e ∧
    endpoint ⟨" [[*:] ", some "", none, 7, 1⟩ = .ok e' ∧ e.url = e'.url ∧
    e.url = "redis://***@[[*:]:6379/7" := by
  have read : parseAddress "[[*:]:+06379" = .ok ("[*:", 6379) := by decide +kernel
  have read' : parseAddress " [[*:] " = .ok ("[*:", 6379) := by decide +kernel
  have accepted : endpoint ⟨"[[*:]:+06379", none, some "***@[", 7, 5⟩ =
      .ok ⟨.host "[*:" 6379, 7, none, some "***@["⟩ := endpoint_eq_ok_iff.mpr ⟨_, _, read, rfl⟩
  have accepted' : endpoint ⟨" [[*:] ", some "", none, 7, 1⟩ =
      .ok ⟨.host "[*:" 6379, 7, some "", none⟩ := endpoint_eq_ok_iff.mpr ⟨_, _, read', rfl⟩
  obtain ⟨⟨_, _, _, _, found, found', same⟩, _⟩ := url_eq_iff_server accepted accepted'
  obtain ⟨rfl, rfl⟩ := Prod.mk.inj (Except.ok.inj (read.symm.trans found))
  obtain ⟨rfl, rfl⟩ := Prod.mk.inj (Except.ok.inj (read'.symm.trans found'))
  exact ⟨_, _, accepted, accepted', same.mpr ⟨rfl, rfl, rfl, rfl⟩, by decide +kernel⟩

end KeyScript.Connection
