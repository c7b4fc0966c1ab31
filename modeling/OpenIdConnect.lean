import OpenIdConnect.Claims.Request
import OpenIdConnect.Decimal.Shortest
import OpenIdConnect.Json.Lookup
import OpenIdConnect.Json.Printer
import OpenIdConnect.Json.Reader
import OpenIdConnect.Text.Base64Url
import OpenIdConnect.Text.Blank
import OpenIdConnect.Text.Form
import OpenIdConnect.Text.Quoted
import OpenIdConnect.Language.Tag
import OpenIdConnect.Url.Reader
import OpenIdConnect.Fault
import OpenIdConnect.Parameter.Basic
import OpenIdConnect.Distinct
import OpenIdConnect.Parameter.Authentication
import OpenIdConnect.Parameter.Member
import OpenIdConnect.Authentication.Assembly
import OpenIdConnect.Authentication.Draft
import OpenIdConnect.Authentication.Classes
import OpenIdConnect.Claims.Resolution
import OpenIdConnect.Provider.Metadata
import OpenIdConnect.Provider.Settings
import OpenIdConnect.Response.UserInfo
import OpenIdConnect.Token.Logout
import OpenIdConnect.Text.Alphanumeric
import OpenIdConnect.Proofs.Outcome
import OpenIdConnect.Proofs.Text.Pieces
import OpenIdConnect.Proofs.Language.Canonical
import OpenIdConnect.Proofs.Claims.Key
import OpenIdConnect.Proofs.Json.Sameness
import OpenIdConnect.Proofs.Json.Members
import OpenIdConnect.Proofs.Claims.Individual
import OpenIdConnect.Proofs.Claims.Selection
import OpenIdConnect.Proofs.Claims.Reading
import OpenIdConnect.Proofs.Claims.Reachable
import OpenIdConnect.Proofs.Claims.RoundTrip
import OpenIdConnect.Proofs.Claims.Resolution
import OpenIdConnect.Proofs.Response.Release
import OpenIdConnect.Proofs.Text.Utf8
import OpenIdConnect.Proofs.Text.Form
import OpenIdConnect.Proofs.Parameter.Repetition
import OpenIdConnect.Proofs.Parameter.Query
import OpenIdConnect.Proofs.Distinct
import OpenIdConnect.Proofs.Parameter.Flow
import OpenIdConnect.Proofs.Text.Words
import OpenIdConnect.Proofs.Parameter.Rereading
import OpenIdConnect.Proofs.Parameter.Returns
import OpenIdConnect.Proofs.Url.Query
import OpenIdConnect.Proofs.Authentication.Reading
import OpenIdConnect.Proofs.Authentication.Writing
import OpenIdConnect.Proofs.Authentication.Rereading
import OpenIdConnect.Proofs.Authentication.RoundTrip
import OpenIdConnect.Proofs.Authentication.Runs
import OpenIdConnect.Proofs.Json.Shrinking
import OpenIdConnect.Proofs.Claims.Specification
import OpenIdConnect.Proofs.Claims.Completeness
import OpenIdConnect.Proofs.Claims.Unwrapping
import OpenIdConnect.Proofs.Claims.Grammar
import OpenIdConnect.Proofs.Claims.Refusing
import OpenIdConnect.Proofs.Claims.Likeness
import OpenIdConnect.Proofs.Claims.FiniteMap
import OpenIdConnect.Proofs.Claims.Representation
import OpenIdConnect.Proofs.Authentication.Composing
import OpenIdConnect.Proofs.Authentication.Refusing
import OpenIdConnect.Proofs.Authentication.Classes
import OpenIdConnect.Proofs.Claims.Combination
import OpenIdConnect.Proofs.Parameter.Access
import OpenIdConnect.Proofs.Parameter.Subject
import OpenIdConnect.Proofs.Token.Logout
import OpenIdConnect.Proofs.Authentication.Merging
import OpenIdConnect.Proofs.Token.Changes
import OpenIdConnect.Proofs.Provider.Metadata
import OpenIdConnect.Proofs.Parameter.Provider
import OpenIdConnect.Proofs.Provider.Acceptance
import OpenIdConnect.Proofs.Claims.Canonical
import OpenIdConnect.Proofs.Response.Coverage
import OpenIdConnect.Proofs.Claims.Sameness
import OpenIdConnect.Proofs.Claims.Monoid
import OpenIdConnect.Proofs.Claims.Stability
import OpenIdConnect.Proofs.Response.Withholding
import OpenIdConnect.Proofs.Response.Redirect
import OpenIdConnect.Proofs.Text.Base64Url
import OpenIdConnect.Proofs.Token.Compact
import OpenIdConnect.Proofs.Provider.Preservation
import OpenIdConnect.Proofs.Provider.Settings
import OpenIdConnect.Proofs.Json.Unsigned
import OpenIdConnect.Proofs.Claims.Parts
import OpenIdConnect.Proofs.Claims.Forms
import OpenIdConnect.Proofs.Claims.Coherence
