import Uacme.Basic
import Uacme.Header
import Uacme.Transport
import Uacme.Account
import Uacme.Authorize
import Uacme.Issue
import Uacme.Main
import Uacme.Domain
import Uacme.Identifiers
import Uacme.Contact
import Uacme.Nonce
import Uacme.Trace
import Uacme.Reach
import Uacme.Kid
import Uacme.Creation
import Uacme.Urls
import Uacme.AuthTrace
import Uacme.AuthOutcome
import Uacme.HookCalls
import Uacme.IssueTrace
import Uacme.IssueGates
import Uacme.Session
import Uacme.Abort
import Uacme.Effects
import Uacme.Consent
import Uacme.Verdict
import Uacme.HookSource
import Uacme.Days
import Uacme.Once
