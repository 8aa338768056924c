import AgoraClient.Data
import AgoraClient.Retry
import AgoraClient.Client
import AgoraClient.Submit
import AgoraClient.NonceRefresh
import AgoraClient.EarnBatch
import AgoraClient.Payment
import AgoraClient.NonceLoop
import AgoraClient.Requests
import AgoraClient.Transactions
