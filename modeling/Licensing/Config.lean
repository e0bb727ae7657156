import Licensing.Error
import Licensing.Text.Quoted
import Licensing.Time.Duration

/-!
# Configurations

What a product sets for its licenses.

## Main definitions

* `Config` — the name of the product, the password of its licenses, the place of its store, and how
  long an opened license is kept.
* `Config.standard` — the configuration with the usual password and time.
* `Config.check` — fails unless a configuration can be used.
-/

namespace Licensing

/-- What a product sets for its licenses. -/
structure Config where
  productName : String
  passphrase : String
  storeNamespace : String
  /-- How many nanoseconds an opened license is kept. -/
  cacheTtl : Nat
  deriving DecidableEq, Repr

namespace Config

/-- The password of licenses unless a product sets another one. -/
def standardPassphrase : String :=
  "licensewarden/payload/9f1c2e7a-4b3d"

/-- The configuration with the usual password, which keeps licenses for five minutes. -/
def standard (productName storeNamespace : String) : Config :=
  ⟨productName, standardPassphrase, storeNamespace, 300000000000⟩

/-- The name leads to one directory below another. -/
def isComponent (name : String) : Bool :=
  !name.toList.contains '/' && !name.toList.contains '\\' && name != "." && name != ".."

/-- Fails unless a configuration can be used. -/
def check (c : Config) : Except Error Unit :=
  if c.productName = "" then .error (.config .emptyProductName)
  else if c.passphrase = "" then .error (.config .emptyPassphrase)
  else if c.storeNamespace = "" then .error (.config .emptyNamespace)
  else if isComponent c.storeNamespace then .ok ()
  else .error (.config (.namespaceComponent c.storeNamespace))

/-- The configuration as diagnostics show it. -/
def describe (c : Config) : String :=
  Text.record "LicensewardenConfig" true
    [("product_name", Text.quote c.productName), ("payload_passphrase", Text.quote c.passphrase),
     ("store_namespace", Text.quote c.storeNamespace), ("cache_ttl", Time.duration c.cacheTtl)]

end Config

end Licensing
