import NacosSdk.Common.HashMap

/-!
# Auth plugins

`RequestResource`, `AuthContext` and `LoginIdentityContext` of
`api/plugin/auth/mod.rs`.
-/

namespace NacosSdk.Auth
open NacosSdk.Common

/-- What a request is about. -/
structure RequestResource where
  requestType : String
  namespace_ : Option String
  group : Option String
  resource : Option String
  deriving DecidableEq

structure AuthContext where
  params : HashMap String

def AuthContext.default : AuthContext where
  params := ∅

def AuthContext.addParam (context : AuthContext) (key val : String) : AuthContext where
  params := context.params.insert key val

def AuthContext.addParams (context : AuthContext) (map : HashMap String) : AuthContext where
  params := context.params.extend map

structure LoginIdentityContext where
  contexts : HashMap String

def LoginIdentityContext.default : LoginIdentityContext where
  contexts := ∅

def LoginIdentityContext.addContext (identity : LoginIdentityContext) (key val : String) :
    LoginIdentityContext where
  contexts := identity.contexts.insert key val

def LoginIdentityContext.addContexts (identity : LoginIdentityContext) (map : HashMap String) :
    LoginIdentityContext where
  contexts := identity.contexts.extend map

end NacosSdk.Auth
