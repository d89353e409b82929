namespace RegistryRelay

-- Texts are ordered by code point, which is also the order of their UTF-8 bytes.
def ascending (texts : List String) : List String :=
  texts.mergeSort (fun a b => decide (a ≤ b))

def ascendingSet (texts : List String) : List String := ascending texts.eraseDups

theorem ascending_perm (texts : List String) : List.Perm (ascending texts) texts :=
  List.mergeSort_perm texts _

end RegistryRelay
